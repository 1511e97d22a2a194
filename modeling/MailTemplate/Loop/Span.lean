/-
Module: MailTemplate.Loop.Span
Purpose: The lines that counted loops cover.
Main exports: LoopSpan, CountedTag, CountedTag.pattern, loopSpans, spanOfLine?
-/
import MailTemplate.Directive.Tag
import MailTemplate.Text.DecimalDigit
import MailTemplate.Text.Numeral

/-!
Validation and conversion go through a template line by line, and need to know which lines lie in a loop
and how often it repeats.  An opener with a count is paired with the closer that a bracket matcher would
pair it with: a closer closes the opener read last among those still open.  Openers without a closer, and
closers without an opener, cover nothing.  Spans are listed in the order of their openers, so the first
that covers a line is the outermost.

A count is written in decimal digits.  One that is too large, or written in digits without an ASCII value,
stands for the largest count.
-/

namespace MailTemplate

/-- The lines from a loop's opener to its closer, both included, counted from one. -/
structure LoopSpan where
  startLine : Nat
  endLine : Nat
  count : Nat
deriving Repr, Inhabited, DecidableEq

/-- Whether a span covers a line. -/
def LoopSpan.covers (span : LoopSpan) (line : Nat) : Bool :=
  span.startLine ≤ line && line ≤ span.endLine

/-- A loop tag as it counts for spans. -/
inductive CountedTag where
  | opener (count : Nat)
  | closer
deriving Repr, Inhabited, DecidableEq

namespace CountedTag

/-- The count that a row of digits stands for. -/
def count (digits : Text) : Nat :=
  (Text.readCount? digits).getD countLimit

/-- The shape of an opener with a count. -/
def openerShape : Shape :=
  [.opens, .blanks, .keyword "loop", .gap, .atLeastOne isDecimalDigit, .blanks, .closes]

/-- Openers with a count, and closers. -/
def pattern : Pattern CountedTag :=
  (openerShape.pattern (fun pieces => .opener (count (pieces.getD 4 []))) (Shape.isSolid_opens _)).orElse
    (Directive.wordPattern "/loop" .closer)

end CountedTag

/-- A loop whose opener has been read. -/
structure OpenedLoop where
  startLine : Nat
  count : Nat
  endLine : Option Nat
deriving Repr, Inhabited, DecidableEq

namespace OpenedLoop

/-- Closes the loop read last among those still open; the loops stand in reverse order of reading. -/
def closeLast (line : Nat) : List OpenedLoop → List OpenedLoop
  | [] => []
  | loop :: loops =>
      match loop.endLine with
      | none => { loop with endLine := some line } :: loops
      | some _ => loop :: closeLast line loops

/-- Reads one tag on a line. -/
def readTag (line : Nat) (loops : List OpenedLoop) : CountedTag → List OpenedLoop
  | .opener count => ⟨line, count, none⟩ :: loops
  | .closer => closeLast line loops

/-- The span of a loop that has been closed. -/
def span? (loop : OpenedLoop) : Option LoopSpan :=
  loop.endLine.map fun endLine => ⟨loop.startLine, endLine, loop.count⟩

end OpenedLoop

/-- The counted loop tags of a text in order, each with its line. -/
def countedTags (content : Text) : List (Nat × CountedTag) :=
  ((Text.lines content).zipIdx 1).flatMap fun (line, number) =>
    (CountedTag.pattern.hits line).map fun hit => (number, hit.value)

/-- The spans of the loops that are opened with a count and closed, in the order of their openers. -/
def loopSpans (content : Text) : List LoopSpan :=
  let loops := (countedTags content).foldl (fun loops (line, tag) => OpenedLoop.readTag line loops tag) []
  loops.reverse.filterMap OpenedLoop.span?

/-- The first of the spans that covers a line. -/
def spanOfLine? (spans : List LoopSpan) (line : Nat) : Option LoopSpan :=
  spans.find? (·.covers line)

end MailTemplate
