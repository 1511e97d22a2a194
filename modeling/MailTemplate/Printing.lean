/-
Module: MailTemplate.Printing
Purpose: Replacing print directives by the values of their variables.
Main exports: Directive.isSilent, Clause, Directive.clause, Resolver.print
-/
import MailTemplate.Data.Resolver
import MailTemplate.Directive.Extent
import MailTemplate.Text.Blank

/-!
A directive prints a value unless its body belongs to the structural grammar of loops, layouts and
references, in which case it is left as written.  The body of a printing directive is one of

* `key, clause`, where what precedes the first top-level comma only labels the value, and the clause is a
  quoted literal or the name of a variable;
* `key|method`, an old form in which the method is ignored;
* `key` alone.

Printing never fails.  Where no value can be generated, the directive stays as it is written.
-/

namespace MailTemplate

namespace Directive

/-- The words that begin a body that prints nothing, if something follows them. -/
def argumentWords : List Text :=
  ["loop", "layout", "include", "component"].map String.toList

/-- The bodies that print nothing as a whole. -/
def loneWords : List Text :=
  ["content", "_index", "_index1"].map String.toList

/-- What the bodies of closing tags begin with. -/
def closerWords : List Text :=
  ["/loop", "/layout"].map String.toList

/-- Whether a directive belongs to the structural grammar and so prints no value. -/
def isSilent (body : Text) : Bool :=
  let body := Text.trim body
  loneWords.contains body || closerWords.any (Text.startsWith · body) ||
    match Text.splitFirstBlank body with
    | some (keyword, rest) => argumentWords.contains keyword && !(Text.trim rest).isEmpty
    | none => false

end Directive

/-- What a print directive puts in its place. -/
inductive Clause where
  /-- This text. -/
  | literal (t : Text)
  /-- The value of this variable. -/
  | variable (key : Text)
deriving Repr, Inhabited, DecidableEq

/-- The clause of a print directive, from its body without surrounding blanks. -/
def Directive.clause (body : Text) : Clause :=
  match splitTopLevelComma? body with
  | some (_, after) =>
      let clause := Text.trim after
      match unquoted? clause with
      | some t => .literal t
      | none => .variable clause
  | none =>
      match Text.splitFirst '|' body with
      | some (key, _) => .variable (Text.trim key)
      | none => .variable body

namespace Resolver

variable {σ : Type} [Chance σ]

/-- The text that a directive prints: what it is written with if it prints nothing, never closes, or has a
variable for which no value can be generated. -/
def printExtent (resolver : Resolver σ) (hit : Hit Directive.Extent) (s : σ) : Text × σ :=
  match hit.value with
  | .unclosed => (hit.raw, s)
  | .closed body =>
      if Directive.isSilent body then (hit.raw, s)
      else
        match Directive.clause (Text.trim body) with
        | .literal t => (t, s)
        | .variable key =>
            match resolver.resolve key s with
            | (.ok value, s) => (value, s)
            | (.error _, s) => (hit.raw, s)

/-- A text with its print directives replaced, from left to right, by their values. -/
def print (resolver : Resolver σ) (t : Text) (s : σ) : Text × σ :=
  Directive.extent.replaceWith resolver.printExtent t s

end Resolver

end MailTemplate
