/-
Module: MailTemplate.Proofs.Placeholder
Purpose: The marks of a placeholder pattern are all filled in at once.
Main exports: Shape.read_word, Engine.Mark, Engine.fill, Engine.fill_append_mark,
  Engine.fill_of_clear, Engine.replace_replace, Engine.placeholder_at_once
-/
import MailTemplate.Engine.Basic
import MailTemplate.Proofs.LoopCopy

/-!
A placeholder of an indexed pattern is made in two steps, the number first and the key behind it.
Yet no step sees what the other has put in: digits make no mark for a key, neither alone nor with
what stands around them, and the key comes last.  So the two steps are one reading of the pattern
from left to right, in which each mark is filled in where it stands.

That reading is `Engine.fill`.  It fills in every mark, wherever marks stand and whatever stands
between them, as two marks never overlap: both begin with the only opening brace they have.
-/

namespace MailTemplate

/-! ### Single words -/

/-- Where a word stands, it is read off the head of the text. -/
theorem Shape.read_word {α : Type} {w : Text} {value : List Text → α}
    {solid : Shape.isSolid [.word w] = true} (t : Text) :
    (Shape.pattern [.word w] value solid).read t =
      (Text.dropPrefix? w t).map fun rest => (⟨w, value [w]⟩, rest) := by
  simp only [Shape.pattern, Shape.take?, Part.take?]
  cases Text.dropPrefix? w t with
  | none => rfl
  | some rest => simp

namespace Engine

/-! ### Marks -/

/-- What a placeholder pattern has a place for. -/
inductive Mark where
  | key
  | index
deriving Repr, Inhabited, DecidableEq

/-- A mark as it is written. -/
def Mark.raw : Mark → Text
  | .key => keyMark
  | .index => indexMark

/-- Occurrences of a mark. -/
def Mark.pattern (mark : Mark) : Pattern Mark :=
  Shape.pattern [.word mark.raw] (fun _ => mark) (by cases mark <;> rfl)

/-- Occurrences of both marks. -/
def marks : Pattern Mark :=
  Mark.key.pattern.orElse Mark.index.pattern

/-- Only the first character of a mark is an opening brace. -/
theorem Mark.exists_tail (mark : Mark) : ∃ tail, mark.raw = '{' :: tail ∧ '{' ∉ tail := by
  cases mark <;> exact ⟨_, rfl, by decide⟩

/-- What a mark is filled in with. -/
def Mark.filled (key number : Text) : Mark → Text
  | .key => key
  | .index => number

/-- A pattern with its marks filled in, in one reading from left to right. -/
def fill (key number pattern : Text) : Text :=
  marks.replace (fun hit => hit.value.filled key number) pattern

/-- A mark for the key is read where the text begins with it. -/
theorem read_keyMarks (t : Text) :
    keyMarks.read t = (Text.dropPrefix? keyMark t).map fun rest => (⟨keyMark, ()⟩, rest) :=
  Shape.read_word t

/-- A mark for the index is read where the text begins with it. -/
theorem read_indexMarks (t : Text) :
    indexMarks.read t = (Text.dropPrefix? indexMark t).map fun rest => (⟨indexMark, ()⟩, rest) :=
  Shape.read_word t

/-- A mark is read where the text begins with it. -/
theorem Mark.read_pattern (mark : Mark) (t : Text) :
    mark.pattern.read t =
      (Text.dropPrefix? mark.raw t).map fun rest => (⟨mark.raw, mark⟩, rest) :=
  Shape.read_word t

/-- Of the two marks, that for the key is tried first. -/
theorem read_marks (t : Text) :
    marks.read t =
      ((Text.dropPrefix? Mark.key.raw t).map fun rest => (⟨Mark.key.raw, .key⟩, rest)).or
        ((Text.dropPrefix? Mark.index.raw t).map fun rest => (⟨Mark.index.raw, .index⟩, rest)) := by
  simp only [marks, Pattern.orElse, Mark.read_pattern]
  cases Text.dropPrefix? Mark.key.raw t <;> rfl

/-- No mark is read where the text begins with neither. -/
theorem read_marks_eq_none_iff {t : Text} : marks.read t = none ↔
    Text.dropPrefix? keyMark t = none ∧ Text.dropPrefix? indexMark t = none := by
  rw [read_marks, Option.or_eq_none_iff, Option.map_eq_none_iff, Option.map_eq_none_iff]
  rfl

/-- A hit is a mark as it is written. -/
theorem of_read_marks {t rest : Text} {hit : Hit Mark} (read : marks.read t = some (hit, rest)) :
    ∃ mark : Mark, hit = ⟨mark.raw, mark⟩ ∧ t = mark.raw ++ rest := by
  have whole := marks.raw_append read
  rw [read_marks, Option.or_eq_some_iff, Option.map_eq_some_iff, Option.map_eq_some_iff] at read
  rcases read with ⟨_, _, same⟩ | ⟨_, _, _, same⟩
  · obtain ⟨rfl, rfl⟩ := Prod.mk.inj same
    exact ⟨.key, rfl, whole.symm⟩
  · obtain ⟨rfl, rfl⟩ := Prod.mk.inj same
    exact ⟨.index, rfl, whole.symm⟩

/-- A mark is read as it is written, whatever comes behind. -/
theorem read_marks_raw (mark : Mark) (rest : Text) :
    marks.read (mark.raw ++ rest) = some (⟨mark.raw, mark⟩, rest) := by
  cases mark <;>
  · rw [read_marks, Text.dropPrefix?_append]
    rfl

/-! ### Filling in -/

/-- A mark is filled, and filling goes on behind it. -/
theorem fill_mark (key number : Text) (mark : Mark) (rest : Text) :
    fill key number (mark.raw ++ rest) = mark.filled key number ++ fill key number rest :=
  Pattern.replace_of_read (read_marks_raw mark rest) _

/-- No mark reaches on from a character to an opening brace behind it. -/
theorem Mark.dropPrefix?_append (mark : Mark) (c : Char) (t rest : Text) :
    Text.dropPrefix? mark.raw (c :: t ++ '{' :: rest) =
      (Text.dropPrefix? mark.raw (c :: t)).map (· ++ '{' :: rest) := by
  obtain ⟨tail, whole, clear⟩ := mark.exists_tail
  rw [whole, List.cons_append, Text.dropPrefix?, Text.dropPrefix?]
  split
  · exact Text.dropPrefix?_append_stop clear t rest
  · rfl

/-- In front of an opening brace, marks are read without what follows. -/
theorem read_marks_append (c : Char) (t rest : Text) :
    marks.read (c :: t ++ '{' :: rest) =
      (marks.read (c :: t)).map fun found => (found.1, found.2 ++ '{' :: rest) := by
  rw [read_marks, read_marks, Mark.dropPrefix?_append, Mark.dropPrefix?_append]
  cases Text.dropPrefix? Mark.key.raw (c :: t) <;>
    cases Text.dropPrefix? Mark.index.raw (c :: t) <;> rfl

/-- Text in front of an opening brace is filled in by itself. -/
theorem fill_append (key number t rest : Text) :
    fill key number (t ++ '{' :: rest) = fill key number t ++ fill key number ('{' :: rest) := by
  induction t using marks.scan_induction with
  | nil => rfl
  | plain c t unread ih =>
      have longer : marks.read (c :: (t ++ '{' :: rest)) = none := by
        rw [← List.cons_append, read_marks_append, unread]
        rfl
      rw [List.cons_append, fill, Pattern.replace_of_not_read longer, fill,
        Pattern.replace_of_not_read unread]
      exact congrArg (c :: ·) ih
  | hit t found behind read ih =>
      obtain ⟨mark, rfl, rfl⟩ := of_read_marks read
      rw [List.append_assoc, fill_mark, fill_mark, ih, List.append_assoc]

/-- Every mark is filled in, whatever stands in front of it and behind it. -/
theorem fill_append_mark (key number before : Text) (mark : Mark) (after : Text) :
    fill key number (before ++ mark.raw ++ after) =
      fill key number before ++ mark.filled key number ++ fill key number after := by
  obtain ⟨tail, whole, _⟩ := mark.exists_tail
  rw [List.append_assoc, List.append_assoc, ← fill_mark, whole, List.cons_append]
  exact fill_append key number before _

/-- Text without marks stays as it is. -/
theorem fill_of_clear {key number t : Text} (clear : ∀ mark : Mark, ¬ mark.raw <:+: t) :
    fill key number t = t := by
  induction t using marks.scan_induction with
  | nil => rfl
  | plain c t unread ih =>
      rw [fill, Pattern.replace_of_not_read unread]
      refine congrArg (c :: ·) (ih fun mark inside => clear mark ?_)
      exact inside.trans (List.suffix_cons c t).isInfix
  | hit t found rest read ih =>
      obtain ⟨mark, _, rfl⟩ := of_read_marks read
      exact absurd (List.prefix_append mark.raw rest).isInfix (clear mark)

/-- What it is to fill in marks: every mark is filled in where it stands, and text without marks
stays as it is. -/
structure IsFilling (key number : Text) (filling : Text → Text) : Prop where
  key_mark : ∀ before after,
    filling (before ++ keyMark ++ after) = filling before ++ key ++ filling after
  index_mark : ∀ before after,
    filling (before ++ indexMark ++ after) = filling before ++ number ++ filling after
  clear : ∀ t, ¬ keyMark <:+: t → ¬ indexMark <:+: t → filling t = t

/-- Filling from left to right is a filling. -/
theorem isFilling_fill (key number : Text) : IsFilling key number (fill key number) where
  key_mark before after := fill_append_mark key number before .key after
  index_mark before after := fill_append_mark key number before .index after
  clear t noKey noIndex := fill_of_clear fun mark => by cases mark <;> assumption

/-! ### Two replacements in a row -/

section Steps

variable {α : Type} {p : Pattern α} (braced : ∀ c t, c ≠ '{' → p.read (c :: t) = none)

include braced

/-- A pattern of tags that begin with an opening brace passes over text without one. -/
theorem replace_clear_append {front : Text} (clear : '{' ∉ front) (f : Hit α → Text)
    (rest : Text) : p.replace f (front ++ rest) = front ++ p.replace f rest := by
  induction front with
  | nil => rfl
  | cons c front ih =>
      rw [List.mem_cons, not_or] at clear
      rw [List.cons_append, Pattern.replace_of_not_read (braced c _ (Ne.symm clear.1)), ih clear.2,
        List.cons_append]

/-- It passes over a mark that is none of its tags, too. -/
theorem replace_mark_append {mark : Mark} (other : ∀ rest, p.read (mark.raw ++ rest) = none)
    (f : Hit α → Text) (rest : Text) :
    p.replace f (mark.raw ++ rest) = mark.raw ++ p.replace f rest := by
  obtain ⟨tail, whole, clear⟩ := mark.exists_tail
  have unread := other rest
  rw [whole, List.cons_append] at unread
  rw [whole, List.cons_append, Pattern.replace_of_not_read unread,
    replace_clear_append braced clear, List.cons_append]

end Steps

/-- A mark for the key begins with a brace. -/
theorem braced_keyMarks (c : Char) (t : Text) (other : c ≠ '{') :
    keyMarks.read (c :: t) = none := by
  rw [read_keyMarks, keyMark, Text.dropPrefix?, if_neg (Ne.symm other)]
  rfl

/-- A mark for the index begins with a brace. -/
theorem braced_indexMarks (c : Char) (t : Text) (other : c ≠ '{') :
    indexMarks.read (c :: t) = none := by
  rw [read_indexMarks, indexMark, Text.dropPrefix?, if_neg (Ne.symm other)]
  rfl

/-- A mark for the key is read whatever comes behind. -/
theorem read_keyMarks_raw (rest : Text) :
    keyMarks.read (keyMark ++ rest) = some (⟨keyMark, ()⟩, rest) := by
  rw [read_keyMarks, Text.dropPrefix?_append]
  rfl

/-- A mark for the index is read whatever comes behind. -/
theorem read_indexMarks_raw (rest : Text) :
    indexMarks.read (indexMark ++ rest) = some (⟨indexMark, ()⟩, rest) := by
  rw [read_indexMarks, Text.dropPrefix?_append]
  rfl

/-- Numbers put in for marks leave no word behind that was not there, if the word has no digit. -/
theorem dropPrefix?_replace_eq_none {w t number : Text} (nonempty : number ≠ [])
    (digits : ∀ c ∈ number, c.isDigit = true) (letters : ∀ c ∈ w, c ≠ '{' ∧ c.isDigit = false)
    (absent : Text.dropPrefix? w t = none) :
    Text.dropPrefix? w (indexMarks.replace (fun _ => number) t) = none := by
  induction w generalizing t with
  | nil => simp [Text.dropPrefix?] at absent
  | cons a w ih =>
      rw [List.forall_mem_cons] at letters
      cases t with
      | nil => rfl
      | cons c t =>
          cases read : indexMarks.read (c :: t) with
          | some found =>
              obtain ⟨hit, rest⟩ := found
              obtain ⟨d, others, rfl⟩ := List.exists_cons_of_ne_nil nonempty
              have other : a ≠ d := by
                rintro rfl
                exact absurd (letters.1.2.symm.trans (digits a List.mem_cons_self)) (by simp)
              rw [Pattern.replace_of_read read, List.cons_append, Text.dropPrefix?, if_neg other]
          | none =>
              rw [Pattern.replace_of_not_read read, Text.dropPrefix?]
              rw [Text.dropPrefix?] at absent
              split
              · rename_i same
                rw [if_pos same] at absent
                exact ih letters.2 absent
              · rfl

/-- To put in a number and then a key is to fill in both at once. -/
theorem replace_replace {number : Text} (nonempty : number ≠ [])
    (digits : ∀ c ∈ number, c.isDigit = true) (key t : Text) :
    keyMarks.replace (fun _ => key) (indexMarks.replace (fun _ => number) t) =
      fill key number t := by
  induction t using marks.scan_induction with
  | nil => rfl
  | plain c t unread ih =>
      obtain ⟨noKey, noIndex⟩ := read_marks_eq_none_iff.1 unread
      have first : indexMarks.read (c :: t) = none := by
        rw [read_indexMarks, noIndex]
        rfl
      -- The number could only complete the mark of a key that begins here.
      have second : keyMarks.read (c :: indexMarks.replace (fun _ => number) t) = none := by
        rw [read_keyMarks, Option.map_eq_none_iff]
        rw [keyMark, Text.dropPrefix?] at noKey ⊢
        split
        · rename_i same
          rw [if_pos same] at noKey
          exact dropPrefix?_replace_eq_none nonempty digits (by simp) noKey
        · rfl
      rw [Pattern.replace_of_not_read first, Pattern.replace_of_not_read second, ih]
      exact (Pattern.replace_of_not_read unread _).symm
  | hit t found rest read ih =>
      obtain ⟨mark, rfl, rfl⟩ := of_read_marks read
      rw [fill_mark]
      cases mark with
      | key =>
          have unread (rest : Text) : indexMarks.read (Mark.key.raw ++ rest) = none := rfl
          rw [replace_mark_append braced_indexMarks unread, Mark.raw,
            Pattern.replace_of_read (read_keyMarks_raw _), ih, Mark.filled]
      | index =>
          have plain : '{' ∉ number := fun inside => absurd (digits _ inside) (by decide)
          rw [Mark.raw, Pattern.replace_of_read (read_indexMarks_raw _),
            replace_clear_append braced_keyMarks plain, ih, Mark.filled]

/-- To put in a key alone is to fill in the key and to leave the marks for a number. -/
theorem replace_keyMarks (key t : Text) :
    keyMarks.replace (fun _ => key) t = fill key indexMark t := by
  induction t using marks.scan_induction with
  | nil => rfl
  | plain c t unread ih =>
      have first : keyMarks.read (c :: t) = none := by
        rw [read_keyMarks, (read_marks_eq_none_iff.1 unread).1]
        rfl
      rw [Pattern.replace_of_not_read first, ih]
      exact (Pattern.replace_of_not_read unread _).symm
  | hit t found rest read ih =>
      obtain ⟨mark, rfl, rfl⟩ := of_read_marks read
      rw [fill_mark]
      cases mark with
      | key => rw [Mark.raw, Pattern.replace_of_read (read_keyMarks_raw _), ih, Mark.filled]
      | index =>
          rw [replace_mark_append braced_keyMarks (fun _ => rfl), ih, Mark.filled, Mark.raw]

/-- The placeholder for a key has all marks of its pattern filled in at once: each mark for the key
with the key, in a loop with the number behind it if there is no pattern for loops, and in such a
pattern each mark for a number with the decimal number.  What is filled in is not read again. -/
theorem placeholder_at_once (engine : Engine) (key : Text) (index : Option Nat) :
    engine.placeholder key index =
        (match index, engine.indexedPattern with
        | none, _ => fill key indexMark engine.variablePattern
        | some index, some pattern => fill key (Text.ofNat index) pattern
        | some index, none =>
            fill (key ++ '_' :: Text.ofNat index) indexMark engine.variablePattern) ∧
      ∀ key number, IsFilling key number (fill key number) := by
  refine ⟨?_, isFilling_fill⟩
  cases index with
  | none => exact replace_keyMarks key _
  | some index =>
      rw [placeholder]
      cases engine.indexedPattern with
      | none => exact replace_keyMarks _ _
      | some pattern =>
          exact replace_replace Nat.toDigits_ne_nil (fun _ => Text.isDigit_of_mem_ofNat) key pattern

/-- A key that looks like a mark is put in as it is. -/
example : liquid.placeholder "{index}{key}".toList (some 2) = "{{ {index}{key}_2 }}".toList := by
  decide +kernel

end Engine

end MailTemplate
