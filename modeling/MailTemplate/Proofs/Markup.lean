/-
Module: MailTemplate.Proofs.Markup
Purpose: Rewriting a text tag by tag, and how the tags of a markup are written.
Main exports: Pattern.Rewritten, Pattern.rewritten_replace, OpenTag.IsWritten,
  OpenTag.isWritten_of_read
-/
import MailTemplate.Proofs.Occurrence
import MailTemplate.Style.Hoist

/-!
`Rewritten` says of two texts that the second is the first with each tag of a pattern edited and
everything else kept, whatever computes it.  The tags are those that a reader meets from left to
right, so no two of them overlap.
-/

namespace MailTemplate

namespace Pattern

variable {α : Type}

/-- A text in which each tag has been replaced by a text that `edits` allows for it, and all other
characters are kept. -/
inductive Rewritten (p : Pattern α) (edits : Hit α → Text → Prop) : Text → Text → Prop
  | nil : Rewritten p edits [] []
  | kept {c : Char} {t new : Text} (unread : p.read (c :: t) = none)
      (behind : Rewritten p edits t new) : Rewritten p edits (c :: t) (c :: new)
  | edited {t rest edit new : Text} {hit : Hit α} (read : p.read t = some (hit, rest))
      (own : edits hit edit) (behind : Rewritten p edits rest new) :
      Rewritten p edits t (edit ++ new)

/-- A text from which each tag has been taken out. -/
abbrev Removed (p : Pattern α) : Text → Text → Prop :=
  p.Rewritten fun _ edit => edit = []

/-- A replacement edits the hits of its text. -/
theorem rewritten_replace {p : Pattern α} {edits : Hit α → Text → Prop} {f : Hit α → Text}
    {t : Text} (each : ∀ hit ∈ p.hits t, edits hit (f hit)) :
    p.Rewritten edits t (p.replace f t) := by
  induction t using p.scan_induction with
  | nil => exact .nil
  | plain c t unread ih =>
      rw [hits_of_not_read unread] at each
      rw [replace_of_not_read unread]
      exact .kept unread (ih each)
  | hit t found rest read ih =>
      rw [hits_of_read read] at each
      rw [replace_of_read read]
      exact .edited read (each found List.mem_cons_self)
        (ih fun hit later => each hit (List.mem_cons_of_mem _ later))

/-- Erasing takes out each tag, and nothing else. -/
theorem removed_erase (p : Pattern α) (t : Text) : p.Removed t (p.erase t) :=
  rewritten_replace fun _ _ => rfl

/-- Where each tag is replaced by itself, the text stays as it is. -/
theorem replace_self {p : Pattern α} {f : Hit α → Text} (same : ∀ hit, f hit = hit.raw) (t : Text) :
    p.replace f t = t := by
  induction t using p.scan_induction with
  | nil => rfl
  | plain c t unread ih => rw [replace_of_not_read unread, ih]
  | hit t found rest read ih => rw [replace_of_read read, ih, same, p.raw_append read]

end Pattern

/-! ### Shapes of tags -/

namespace Part

theorem take?_word_eq_some {w t piece rest : Text}
    (taken : take? (.word w) t = some (piece, rest)) :
    piece = w ∧ t = w ++ rest := by
  obtain ⟨after, found, same⟩ := Option.map_eq_some_iff.1 taken
  obtain ⟨rfl, rfl⟩ := Prod.mk.inj same
  exact ⟨rfl, Text.eq_append_of_dropPrefix? found⟩

/-- At a boundary nothing is taken. -/
theorem take?_boundary {p : Char → Bool} {t : Text} (stop : ∀ c ∈ t.head?, p c = false) :
    take? (.boundary p) t = some ([], t) := by
  cases t with
  | nil => rfl
  | cons c t => simp [take?, stop c rfl]

theorem take?_boundary_eq_some {p : Char → Bool} {t piece rest : Text}
    (taken : take? (.boundary p) t = some (piece, rest)) :
    piece = [] ∧ rest = t ∧ ∀ c ∈ t.head?, p c = false := by
  cases t with
  | nil =>
      rw [take?, Option.some.injEq, Prod.mk.injEq] at taken
      exact ⟨taken.1.symm, taken.2.symm, by simp⟩
  | cons c t =>
      by_cases own : p c
      · simp [take?, own] at taken
      · rw [take?, if_neg own, Option.some.injEq, Prod.mk.injEq] at taken
        exact ⟨taken.1.symm, taken.2.symm, by simpa using own⟩

end Part

/-- A shape that begins with a word takes the word and then what the rest of it takes. -/
theorem Shape.take?_word_cons {w t rest : Text} {shape : Shape} {pieces : List Text}
    (taken : take? (.word w :: shape) t = some (pieces, rest)) :
    ∃ middle others, t = w ++ middle ∧ take? shape middle = some (others, rest) ∧
      pieces = w :: others := by
  obtain ⟨piece, middle, others, first, second, rfl⟩ := take?_cons taken
  obtain ⟨rfl, rfl⟩ := Part.take?_word_eq_some first
  exact ⟨middle, others, rfl, second, rfl⟩

namespace OpenTag

/-- How a tag is written: a letter and more letters and digits for its name, then, behind a word
boundary, its attributes without angle brackets. -/
structure IsWritten (hit : Hit OpenTag) : Prop where
  raw : hit.raw = '<' :: (hit.value.name ++ (hit.value.attributes ++ ['>']))
  name_head : ∃ c ∈ hit.value.name.head?, c.isAlpha = true
  name : ∀ c ∈ hit.value.name, c.isAlphanum = true
  attributes : ∀ c ∈ hit.value.attributes, c ≠ '<' ∧ c ≠ '>'
  boundary : ∀ c ∈ hit.value.attributes.head?, isWordCharacter c = false

/-- A tag is read as it is written: a name, attributes, and the closing bracket. -/
theorem isWritten_of_read {t rest : Text} {hit : Hit OpenTag}
    (read : pattern.read t = some (hit, rest)) : IsWritten hit := by
  obtain ⟨pieces, whole, rfl⟩ := Shape.take?_of_read read
  obtain ⟨_, _, rfl, behindBracket, rfl⟩ := Shape.take?_word_cons whole
  obtain ⟨_, _, _, first, behindFirst, rfl⟩ := Shape.take?_cons behindBracket
  obtain ⟨c, rfl, letter⟩ := Part.accepts_of_take? first
  obtain ⟨others, _, _, run, behindName, rfl⟩ := Shape.take?_cons behindFirst
  have alphanumeric : ∀ c ∈ others, c.isAlphanum = true := Part.accepts_of_take? run
  obtain ⟨_, _, _, ends, behindBoundary, rfl⟩ := Shape.take?_cons behindName
  obtain ⟨rfl, rfl, boundary⟩ := Part.take?_boundary_eq_some ends
  obtain ⟨attributes, _, _, inner, behindAttributes, rfl⟩ := Shape.take?_cons behindBoundary
  have clear : ∀ c ∈ attributes, (c != '<' && c != '>') = true := Part.accepts_of_take? inner
  obtain ⟨_, _, rfl, nothing, rfl⟩ := Shape.take?_word_cons behindAttributes
  obtain ⟨rfl, rfl⟩ := Prod.mk.inj (Option.some.inj nothing)
  refine ⟨by simp, ⟨c, by simp, letter⟩, ?_, ?_, ?_⟩
  · intro d inside
    rcases List.mem_cons.1 inside with rfl | later
    · simp [Char.isAlphanum, letter]
    · exact alphanumeric d later
  · intro d inside
    simpa using clear d inside
  · intro d head
    refine boundary d ?_
    rw [← Part.take?_append inner, List.head?_append]
    simp only [List.getD_cons_succ, List.getD_cons_zero] at head
    rw [Option.mem_def.1 head]
    rfl

/-- So is every tag that a scan finds. -/
theorem isWritten_of_mem_hits {t : Text} {hit : Hit OpenTag} (inside : hit ∈ pattern.hits t) :
    IsWritten hit := by
  obtain ⟨first, last, scan⟩ := Pattern.mem_hits_iff.1 inside
  exact isWritten_of_read (Pattern.read_of_scan scan)

end OpenTag

end MailTemplate
