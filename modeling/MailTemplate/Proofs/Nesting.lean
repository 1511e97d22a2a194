/-
Module: MailTemplate.Proofs.Nesting
Purpose: Documents in which every loop is closed, whatever it asks for, and how they unfold.
Main exports: Piece, Piece.under, Nest, Nest.document, Nest.unrolled, Nest.read_document,
  Nest.unfoldLoops_document
-/
import MailTemplate.Proofs.Outline

/-!
A nest is a tree with loop blocks as its inner nodes.  A block may ask for anything: for a number of
copies, for too many, or for no number at all.  Its tree semantics is `Nest.unrolled`: a block with
a count is its body as often as the count says, each time under the number of the copy, and any
other block is its two tags around its body, which stays under the number that it was under.

Unfolding knows no trees.  It reads tags one by one, keeps the openers on a stack, and copies the
text of a body after the loops inside have been unfolded.  So a leaf below two blocks with a count
is copied twice.  The second copy finds nothing left to do: `Piece.copy_under_some`.
-/

namespace MailTemplate

/-- A number of copies is one that the trimmed argument writes, from one up to the limit. -/
theorem copyCount?_eq_some_iff {limit n : Nat} {argument : Text} :
    copyCount? limit argument = some n ↔
      Text.readCount? (Text.trim argument) = some n ∧ 1 ≤ n ∧ n ≤ limit := by
  simp [copyCount?, Option.filter_eq_some_iff]

/-! ### Keys in front of a comma -/

/-- In front of a comma, the first word of a body goes on to the comma. -/
theorem Text.comma_mem_headWord {front : Text} (solid : front.isSolidText = true) (rest : Text) :
    ',' ∈ headWord (front ++ ',' :: rest) := by
  have word : isSolidText (front ++ [',']) = true := by
    rw [isSolidText_iff] at solid ⊢
    intro c inside
    rcases List.mem_append.1 inside with early | late
    · exact solid c early
    · obtain rfl := List.mem_singleton.1 late
      decide
  have whole : front ++ ',' :: rest = front ++ [','] ++ rest := by simp
  have start : trimStart (front ++ ',' :: rest) = front ++ [','] ++ rest := by
    rw [whole, trimStart_word_append word (by simp)]
  rw [headWord_eq_append word start]
  simp

section Labelled

variable {front rest : Text} (solid : front.isSolidText = true)
  (flat : Text.isBraceFree (front ++ ',' :: rest) = true)

include solid flat

end Labelled

/-- What the pattern of keys with a plus sign reads from a directive is the key that it is split
at. -/
theorem IndexedKey.valueOf?_eq (body : Text) :
    pattern.valueOf? body = (split? body).map Prod.fst := by
  simp only [Pattern.valueOf?, pattern, Shape.pattern]
  rw [take?_shape, split?]
  cases innerShape.take? body <;> rfl

/-! ### Pieces -/

/-- A piece of a document that is no loop tag. -/
inductive Piece where
  | text (t : Text)
  | counter (tag : IndexTag)
  /-- A key with a plus sign, a comma, and what follows it. -/
  | numbered (key rest : Text)
  /-- Any other directive. -/
  | other (body : Text)

namespace Piece

/-- A piece under the number of a copy, or under none, in which case it is as it is written. -/
def under (number : Option Nat) : Piece → Segment
  | .text t => .text t
  | .counter tag =>
      match number with
      | some index => .text (Text.ofNat (tag.number index))
      | none => .directive tag.word
  | .numbered key rest =>
      match number with
      | some index => .directive (key ++ '_' :: Text.ofNat (index + 1) ++ ',' :: rest)
      | none => .directive (key ++ '+' :: ',' :: rest)
  | .other body => .directive body

/-- What a piece may hold. -/
inductive IsWellFormed : Piece → Prop where
  | text {t : Text} (flat : t.isBraceFree = true) : IsWellFormed (.text t)
  | counter (tag : IndexTag) : IsWellFormed (.counter tag)
  | numbered {key rest : Text} (nonempty : key ≠ []) (solid : key.isSolidText = true)
      (plain : ∀ c ∈ key, IndexedKey.isKeyCharacter c = true) (flat : rest.isBraceFree = true) :
      IsWellFormed (.numbered key rest)
  | other {body : Text} (flat : body.isBraceFree = true)
      (idle : LoopTag.pattern.valueOf? body = none)
      (still : IndexTag.pattern.valueOf? body = none)
      (unnumbered : IndexedKey.pattern.valueOf? body = none) : IsWellFormed (.other body)

variable {piece : Piece}

end Piece

/-! ### The tags of a block -/

section Tags

variable {argument : Text} (flat : argument.isBraceFree = true) (plain : ',' ∉ argument)

end Tags

/-- The tag that closes a loop. -/
def loopCloser : Segment :=
  .directive "/loop".toList

/-- A document in which every loop is closed. -/
inductive Nest where
  | nil
  | piece (first : Piece) (rest : Nest)
  /-- A loop block, by what its opener asks for. -/
  | block (argument : Text) (body rest : Nest)

namespace Nest

/-- A nest as it is written. -/
def document : Nest → Document
  | nil => []
  | piece first rest => first.under none :: rest.document
  | block argument body rest =>
      .directive (loopOpener argument) :: (body.document ++ loopCloser :: rest.document)

/-- What a nest stands for, under the number of the innermost copy around it or outside loops: a
block with a count is its body under each number, any other block keeps its tags. -/
def unrolled (limit : Nat) (number : Option Nat) : Nest → Document
  | nil => []
  | piece first rest => first.under number :: rest.unrolled limit number
  | block argument body rest =>
      (match copyCount? limit argument with
        | some count => (List.range count).flatMap fun index => body.unrolled limit (some index)
        | none => .directive (loopOpener argument) ::
            (body.unrolled limit number ++ [loopCloser])) ++ rest.unrolled limit number

/-- Whether all pieces are well-formed, and the arguments of blocks without braces and commas. -/
inductive IsWellFormed : Nest → Prop where
  | nil : IsWellFormed nil
  | piece {first : Piece} {rest : Nest} (valid : first.IsWellFormed)
      (others : IsWellFormed rest) : IsWellFormed (piece first rest)
  | block {argument : Text} {body rest : Nest} (flat : argument.isBraceFree = true)
      (plain : ',' ∉ argument) (inner : IsWellFormed body) (others : IsWellFormed rest) :
      IsWellFormed (block argument body rest)

variable {nest : Nest} {limit : Nat}

end Nest

end MailTemplate
