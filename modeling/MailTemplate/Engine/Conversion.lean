/-
Module: MailTemplate.Engine.Conversion
Purpose: Replacing keyed directives by the placeholders of a target dialect.
Main exports: KeyedTag.pattern, fanOut, convertLine, convertText
-/
import MailTemplate.Engine.Basic
import MailTemplate.Loop.Span

/-!
A keyed directive is a key, a comma and anything up to the closing braces, all on one line.  Conversion
puts the dialect's placeholder for the key in its place; what follows the comma is dropped, and all other
text stays as it is.

On a line that a counted loop covers, a keyed directive becomes one placeholder for each iteration, one a
line, the later ones indented to the directive's column.  A bound limits their number.
-/

namespace MailTemplate

namespace KeyedTag

/-- The shape of a keyed directive. -/
def shape : Shape :=
  [.opens, .atLeastOne (fun c => c != ',' && c != '}'), .word [','], .bodyRun, .closes]

/-- Keyed directives, by their keys without surrounding blanks. -/
def pattern : Pattern Text :=
  shape.pattern (fun pieces => Text.trim (pieces.getD 1 [])) (Shape.isSolid_opens _)

end KeyedTag

/-- The placeholders for the iterations of a loop, each on a line of its own, indented to a column. -/
def fanOut (dialect : Dialect) (key : Text) (iterations column : Nat) : Text :=
  Text.join ('\n' :: List.replicate column ' ')
    ((List.range iterations).map fun index => dialect.placeholder key (some (index + 1)))

/-- What a keyed directive in a column becomes, on a line that a loop covers or none does. -/
def convertDirective (dialect : Dialect) (limit : Nat) (enclosing : Option LoopSpan) (column : Nat)
    (key : Text) : Text :=
  match enclosing with
  | some span => fanOut dialect key (min span.count limit) column
  | none => dialect.placeholder key none

/-- A line with its keyed directives converted. -/
def convertLine (dialect : Dialect) (limit : Nat) (enclosing : Option LoopSpan) (line : Text) : Text :=
  KeyedTag.pattern.replaceAt
    (fun column hit => convertDirective dialect limit enclosing column hit.value) line

/-- A text with its keyed directives converted, at most `limit` placeholders for each. -/
def convertText (dialect : Dialect) (limit : Nat) (content : Text) : Text :=
  let spans := loopSpans content
  Text.join ['\n'] (((Text.lines content).zipIdx 1).map fun (line, number) =>
    convertLine dialect limit (spanOfLine? spans number) line)

end MailTemplate
