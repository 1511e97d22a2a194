/-
Module: MailTemplate.Loop.Expansion
Purpose: Unfolding loop blocks into copies of their bodies.
Main exports: LoopTag, LoopTag.pattern, IndexTag, IndexedKey.pattern, loopCopy, unfoldLoops
-/
import MailTemplate.Directive.Tag
import MailTemplate.Text.Numeral

/-!
A loop block is an opener with an argument, a body and the closer that matches the opener.  If the argument
is a count from one up to a limit, the block is replaced by that many copies of its body; otherwise both
tags stay where they are.  The body is expanded before it is copied, so nested loops multiply and an index
placeholder belongs to the innermost loop around it.

In copy number `i`, counted from zero, the placeholder `_index` becomes `i`, the placeholder `_index1`
becomes `i + 1`, and a key followed by a plus sign and a comma gets `_` and `i + 1` in place of the plus
sign.

Tags are matched like brackets of any argument: a closer belongs to the opener read last among those still
open.  An opener that is never closed and a closer that closes nothing are ordinary text.
-/

namespace MailTemplate

/-- A tag that opens or closes a loop block. -/
inductive LoopTag where
  | opener (argument : Text)
  | closer
deriving Repr, Inhabited, DecidableEq

/-- Openers with any argument, and closers. -/
def LoopTag.pattern : Pattern LoopTag :=
  ((Directive.argumentTag "loop").pattern (fun pieces => .opener (Text.trim (pieces.getD 4 [])))
      (Shape.isSolid_opens _)).orElse
    (Directive.wordPattern "/loop" .closer)

/-- A placeholder for the number of a copy. -/
inductive IndexTag where
  | fromZero
  | fromOne
deriving Repr, Inhabited, DecidableEq

/-- Placeholders for the number of a copy. -/
def IndexTag.pattern : Pattern IndexTag :=
  (Directive.wordPattern "_index" .fromZero).orElse (Directive.wordPattern "_index1" .fromOne)

/-- The number that a placeholder stands for in copy `index`. -/
def IndexTag.number (index : Nat) : IndexTag → Nat
  | .fromZero => index
  | .fromOne => index + 1

namespace IndexedKey

/-- Whether a character can occur in the key in front of a plus sign. -/
def isKeyCharacter (c : Char) : Bool :=
  c != ',' && c != '{' && c != '}' && c != '+'

/-- The shape of the beginning of a directive, up to the comma behind a key with a plus sign. -/
def shape : Shape :=
  [.opens, .atLeastOne isKeyCharacter, .word ['+'], .blanks, .word [',']]

/-- Beginnings of directives whose key ends in a plus sign. -/
def pattern : Pattern Text :=
  shape.pattern (fun pieces => Text.trim (pieces.getD 1 [])) (Shape.isSolid_opens _)

/-- The beginning of a directive whose key has got the number of its copy. -/
def numbered (index : Nat) (key : Text) : Text :=
  Directive.opening ++ key ++ '_' :: Text.ofNat (index + 1) ++ [',']

end IndexedKey

/-- Copy `index` of a loop body. -/
def loopCopy (index : Nat) (body : Text) : Text :=
  let placed := IndexTag.pattern.replace (fun hit => Text.ofNat (hit.value.number index)) body
  IndexedKey.pattern.replace (fun hit => IndexedKey.numbered index hit.value) placed

/-- The copies of a loop body, in order. -/
def loopCopies (count : Nat) (body : Text) : Text :=
  (List.range count).flatMap fun index => loopCopy index body

/-- The number of copies that an argument asks for: a count from one to the limit. -/
def copyCount? (limit : Nat) (argument : Text) : Option Nat :=
  (Text.readCount? (Text.trim argument)).filter fun count => 1 ≤ count && count ≤ limit

/-- An opener still to be closed: its tag, and the output in front of it, reversed. -/
structure OpenBlock where
  before : Text
  raw : Text
  argument : Text
deriving Repr, Inhabited, DecidableEq

/-- How far an expansion has come: the output since the last open opener, reversed, and the openers still
to be closed, innermost first. -/
structure Expansion where
  out : Text
  blocks : List OpenBlock
deriving Repr, Inhabited, DecidableEq

namespace Expansion

/-- Adds text to the output. -/
def emit (t : Text) (expansion : Expansion) : Expansion :=
  { expansion with out := t.reverseAux expansion.out }

/-- What a block whose body has been expanded is replaced by. -/
def replacement (limit : Nat) (block : OpenBlock) (body closer : Text) : Text :=
  match copyCount? limit block.argument with
  | some count => loopCopies count body
  | none => block.raw ++ body ++ closer

/-- Reads one token. -/
def readToken (limit : Nat) (expansion : Expansion) : Token LoopTag → Expansion
  | .plain c => { expansion with out := c :: expansion.out }
  | .hit ⟨raw, .opener argument⟩ => ⟨[], ⟨expansion.out, raw, argument⟩ :: expansion.blocks⟩
  | .hit ⟨raw, .closer⟩ =>
      match expansion.blocks with
      | [] => expansion.emit raw
      | block :: blocks =>
          emit (replacement limit block expansion.out.reverse raw) ⟨block.before, blocks⟩

/-- The output once all tokens are read.  Openers left open are put back. -/
def finish : Expansion → Text
  | ⟨out, blocks⟩ =>
      (blocks.foldl (fun inner block => inner ++ block.raw.reverse ++ block.before) out).reverse

end Expansion

/-- A text with its loop blocks unfolded. -/
def unfoldLoops (limit : Nat) (t : Text) : Text :=
  ((LoopTag.pattern.scan t).foldl (Expansion.readToken limit) ⟨[], []⟩).finish

end MailTemplate
