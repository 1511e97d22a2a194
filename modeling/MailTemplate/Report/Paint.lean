/-
Module: MailTemplate.Report.Paint
Purpose: Colour and weight of text, as far as reports ask for it.
Main exports: Ink, Painter, Painter.paint, Painter.plain, padTo
-/
import MailTemplate.Text.Basic

/-!
Reports say which inks a text is to have, and how wide it is to be.  What that looks like is a matter for the
painter, who may know the terminal, or may leave every text as it is.
-/

namespace MailTemplate

/-- A property that text on a terminal can have. -/
inductive Ink where
  | bold
  | dimmed
  | red
  | green
  | yellow
  | brightCyan
deriving Repr, Inhabited, DecidableEq

/-- A library that paints texts. -/
structure Painter where
  /-- A text in the given inks, filled up with blanks to a number of characters. -/
  paintTo : Nat → List Ink → Text → Text

/-- A text filled up with blanks to a number of characters. -/
def padTo (width : Nat) (t : Text) : Text :=
  t ++ List.replicate (width - t.length) ' '

namespace Painter

/-- A text in the given inks. -/
def paint (painter : Painter) (inks : List Ink) (t : Text) : Text :=
  painter.paintTo 0 inks t

/-- The painter without colour. -/
def plain : Painter where
  paintTo width _ t := padTo width t

/-- Without colour a text stays as it is. -/
@[simp] theorem paint_plain (inks : List Ink) (t : Text) : plain.paint inks t = t := by
  simp [paint, plain, padTo]

end Painter

end MailTemplate
