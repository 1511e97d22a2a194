/-
Module: MailTemplate.Directive.Tag
Purpose: The parts that the shapes of directives share, and shapes of a word between braces.
Main exports: Part.opens, Part.closes, Part.blanks, Part.gap, Part.keyword, Part.bodyRun, Directive.wordTag,
  Directive.wordPattern
-/
import MailTemplate.Directive.Extent
import MailTemplate.Text.Blank

/-!
Structural directives are recognised by shapes and not by the extent of a directive: no quoted literal and
no nested brace occurs in them.  Blanks may pad the braces on the inside.
-/

namespace MailTemplate

namespace Part

/-- Two opening braces. -/
def opens : Part := .word Directive.opening

/-- Two closing braces. -/
def closes : Part := .word Directive.closing

/-- Any number of blanks. -/
def blanks : Part := .many isBlank

/-- At least one blank. -/
def gap : Part := .atLeastOne isBlank

/-- A fixed word. -/
def keyword (w : String) : Part := .word w.toList

/-- Everything up to a closing brace. -/
def bodyRun : Part := .many (· != '}')

end Part

/-- A word alone between braces. -/
def Directive.wordTag (w : String) : Shape :=
  [.opens, .blanks, .keyword w, .blanks, .closes]

/-- A word, blanks, and everything up to the closing braces. -/
def Directive.argumentTag (w : String) : Shape :=
  [.opens, .blanks, .keyword w, .gap, .bodyRun, .closes]

/-- A shape that begins with opening braces takes at least these. -/
theorem Shape.isSolid_opens (shape : Shape) : Shape.isSolid (.opens :: shape) = true := by
  simp [isSolid, Part.opens, Part.isSolid, Directive.opening]

/-- Finds a word alone between braces, which stands for `value`. -/
def Directive.wordPattern {α : Type} (w : String) (value : α) : Pattern α :=
  (Directive.wordTag w).pattern (fun _ => value) (Shape.isSolid_opens _)

end MailTemplate
