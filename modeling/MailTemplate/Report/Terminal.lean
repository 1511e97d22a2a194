/-
Module: MailTemplate.Report.Terminal
Purpose: The painter of a terminal.
Main exports: Painter.terminal
-/
import MailTemplate.Report.Paint
import MailTemplate.Text.Pattern

/-!
A painted text stands between a control sequence that sets its inks and one that resets them.  A reset
inside it is followed by the inks once more, so that the rest of the text keeps them.
-/

namespace MailTemplate

namespace Ink

/-- The number that stands for an ink in a control sequence. -/
def code : Ink → Text
  | .bold => ['1']
  | .dimmed => ['2']
  | .red => ['3', '1']
  | .green => ['3', '2']
  | .yellow => ['3', '3']
  | .brightCyan => ['9', '6']

/-- The control sequence with given numbers. -/
def sequence (codes : List Text) : Text :=
  '\x1b' :: '[' :: Text.join [';'] codes ++ ['m']

/-- The control sequence that resets all inks. -/
def reset : Text := sequence [['0']]

/-- Resets in a text. -/
def resets : Pattern Unit :=
  Shape.pattern [.word reset] (fun _ => ()) rfl

end Ink

/-- The painter of a terminal. -/
def Painter.terminal : Painter where
  paintTo width inks t :=
    let set := Ink.sequence (inks.map Ink.code)
    set ++ padTo width (Ink.resets.replace (fun hit => hit.raw ++ set) t) ++ Ink.reset

/-- With colour the terminal's painter, without colour the plain one. -/
instance : Coe Bool Painter where
  coe color := if color then .terminal else .plain

end MailTemplate
