/-
Module: MailTemplate.Proofs.HeadWord
Purpose: Padding, trimming, and the first word of a text.
Main exports: Text.isPadding, Text.trim_padded, Text.trim_eq_self, Text.headWord,
  Text.headWord_eq_takeWhile
-/
import Mathlib.Data.List.TakeWhile
import MailTemplate.Text.Blank

/-!
What a directive is depends on its first word and on whether anything but padding follows.  These
are the laws of trimming that such questions come down to.
-/

namespace MailTemplate

namespace Text

/-- Whether a text is nothing but blanks. -/
def isPadding (t : Text) : Bool :=
  t.all isBlank

/-- Padding is blanks alone. -/
theorem isPadding_iff {t : Text} : t.isPadding = true ↔ ∀ c ∈ t, isBlank c = true :=
  List.all_eq_true

/-- Padding holds nothing but blanks. -/
theorem not_mem_of_isPadding {pad : Text} (blank : pad.isPadding = true) {c : Char}
    (solid : isBlank c = false) : c ∉ pad := by
  intro inside
  rw [isPadding_iff.1 blank c inside] at solid
  exact absurd solid (by simp)

/-- The blanks that a text begins with are padding. -/
theorem isPadding_takeWhile (t : Text) : isPadding (t.takeWhile isBlank) = true :=
  List.all_takeWhile

/-- Whether no character of a text is a blank. -/
def isSolidText (t : Text) : Bool :=
  t.all fun c => !isBlank c

/-- A solid text holds no blank. -/
theorem isSolidText_iff {t : Text} : t.isSolidText = true ↔ ∀ c ∈ t, isBlank c = false := by
  simp [isSolidText, List.all_eq_true]

/-- Ranges without a common point have no common characters. -/
theorem Ranges.contains_eq_false {first second : Ranges}
    (disjoint : (first.all fun a => second.all fun b => a.2 < b.1 || b.2 < a.1) = true) {c : Char}
    (here : first.contains c = true) : second.contains c = false := by
  obtain ⟨a, one, inA⟩ := List.any_eq_true.1 here
  rw [contains, List.any_eq_false]
  intro b two inB
  have apart := List.all_eq_true.1 (List.all_eq_true.1 disjoint a one) b two
  simp only [Bool.and_eq_true, Bool.or_eq_true, decide_eq_true_eq] at inA inB apart
  omega

/-! ### Trimming -/

/-- A text is the blanks it begins with, and what trimming leaves. -/
theorem takeWhile_append_trimStart (t : Text) : t.takeWhile isBlank ++ trimStart t = t :=
  List.takeWhile_append_dropWhile

/-- Blanks at the head are trimmed away, however many. -/
theorem trimStart_padding_append {pad : Text} (blank : pad.isPadding = true) (t : Text) :
    trimStart (pad ++ t) = trimStart t :=
  List.dropWhile_append_of_pos (isPadding_iff.1 blank)

/-- Trimming stops at the first character that is no blank. -/
theorem trimStart_cons {c : Char} (h : isBlank c = false) (t : Text) :
    trimStart (c :: t) = c :: t := by
  simp [trimStart, h]

/-- A text in front of which stands a word begins with the word when it is trimmed. -/
theorem trimStart_word_append {word : Text} (solid : word.isSolidText = true) (nonempty : word ≠ [])
    (t : Text) : trimStart (word ++ t) = word ++ t := by
  obtain ⟨c, word, rfl⟩ := List.exists_cons_of_ne_nil nonempty
  exact trimStart_cons (isSolidText_iff.1 solid c List.mem_cons_self) (word ++ t)

/-- Trimming the head stops at the first character that is no blank, and sees nothing behind it. -/
theorem trimStart_append {t : Text} (nonempty : trimStart t ≠ []) (rest : Text) :
    trimStart (t ++ rest) = trimStart t ++ rest := by
  induction t with
  | nil => simp [trimStart] at nonempty
  | cons c t ih =>
      by_cases hc : isBlank c = true
      · have skip (u : Text) : trimStart (c :: u) = trimStart u := by simp [trimStart, hc]
        rw [skip] at nonempty
        rw [List.cons_append, skip, skip, ih nonempty]
      · have hc : isBlank c = false := by simpa using hc
        rw [List.cons_append, trimStart_cons hc, trimStart_cons hc, List.cons_append]

/-- Where trimming leaves nothing there were blanks alone. -/
theorem isPadding_of_trimStart {t : Text} (blank : trimStart t = []) : t.isPadding = true := by
  rw [isPadding_iff]
  exact List.dropWhile_eq_nil_iff.1 blank

/-- Trimming does not go beyond a character that is no blank. -/
theorem trimStart_append_cons {c : Char} (h : isBlank c = false) (t rest : Text) :
    trimStart (t ++ c :: rest) = trimStart t ++ c :: rest := by
  by_cases empty : trimStart t = []
  · rw [empty, trimStart_padding_append (isPadding_of_trimStart empty), trimStart_cons h]
    rfl
  · exact trimStart_append empty (c :: rest)

/-- Blanks at the end are trimmed away, however many. -/
theorem trimEnd_append_padding {pad : Text} (blank : pad.isPadding = true) (t : Text) :
    trimEnd (t ++ pad) = trimEnd t := by
  have reversed : ∀ c ∈ pad.reverse, isBlank c = true := fun c inside =>
    isPadding_iff.1 blank c (List.mem_reverse.1 inside)
  rw [trimEnd, List.reverse_append, List.dropWhile_append_of_pos reversed, trimEnd]

/-- What is trimmed off the end is a run of blanks. -/
theorem trimEnd_append_padding_eq (t : Text) :
    ∃ pad, pad.isPadding = true ∧ trimEnd t ++ pad = t := by
  refine ⟨(t.reverse.takeWhile isBlank).reverse, ?_, ?_⟩
  · rw [isPadding_iff]
    intro c inside
    exact isPadding_iff.1 (isPadding_takeWhile t.reverse) c (List.mem_reverse.1 inside)
  · rw [trimEnd, ← List.reverse_append, List.takeWhile_append_dropWhile, List.reverse_reverse]

/-- From the end, trimming stops at the last character that is no blank. -/
theorem trimEnd_concat {c : Char} (h : isBlank c = false) (t : Text) :
    trimEnd (t ++ [c]) = t ++ [c] := by
  simp [trimEnd, h]

/-- Trimming the end stops at the last character that is no blank, and sees nothing before it. -/
theorem trimEnd_append {t : Text} (nonempty : trimEnd t ≠ []) (front : Text) :
    trimEnd (front ++ t) = front ++ trimEnd t := by
  have start : trimStart t.reverse ≠ [] := by simpa [trimEnd, trimStart] using nonempty
  have reversed := trimStart_append start front.reverse
  rw [← List.reverse_append] at reversed
  rw [trimEnd, trimEnd]
  simp only [trimStart] at reversed
  rw [reversed, List.reverse_append, List.reverse_reverse]

/-- Trimming the end keeps a first character that is no blank. -/
theorem trimEnd_cons {c : Char} (h : isBlank c = false) (t : Text) :
    trimEnd (c :: t) = c :: trimEnd t := by
  simp only [trimEnd, List.reverse_cons, List.dropWhile_append]
  split
  · rename_i empty
    rw [List.isEmpty_iff.1 empty]
    simp [h]
  · simp

/-- What is trimmed off behind the head is a run of blanks. -/
theorem trim_append_padding_eq (t : Text) :
    ∃ pad, pad.isPadding = true ∧ trim t ++ pad = trimStart t :=
  trimEnd_append_padding_eq (trimStart t)

/-- Trimming adds no characters. -/
theorem trim_subset (t : Text) : trim t ⊆ t := by
  obtain ⟨pad, _, same⟩ := trim_append_padding_eq t
  intro c inside
  rw [← takeWhile_append_trimStart t, ← same]
  exact List.mem_append_right _ (List.mem_append_left _ inside)

/-- Of padding nothing is left. -/
theorem trimStart_of_padding {pad : Text} (blank : pad.isPadding = true) : trimStart pad = [] := by
  simpa [trimStart] using trimStart_padding_append blank []

/-- Padding around a text makes no difference to what is left when it is trimmed. -/
theorem trim_padded {before after : Text} (front : before.isPadding = true)
    (back : after.isPadding = true) (t : Text) : trim (before ++ t ++ after) = trim t := by
  unfold trim
  rw [List.append_assoc, trimStart_padding_append front]
  by_cases empty : trimStart t = []
  · have all : (t ++ after).isPadding = true := by
      rw [isPadding, List.all_append, Bool.and_eq_true]
      exact ⟨isPadding_of_trimStart empty, back⟩
    rw [trimStart_of_padding all, empty]
  · rw [trimStart_append empty, trimEnd_append_padding back]

/-- Trimming trims the end anyway. -/
theorem trim_trimEnd (t : Text) : trim (trimEnd t) = trim t := by
  obtain ⟨pad, blank, same⟩ := trimEnd_append_padding_eq t
  have empty : Text.isPadding [] = true := rfl
  have padded := trim_padded empty blank (trimEnd t)
  rw [List.nil_append, same] at padded
  exact padded.symm

/-- Trimming trims the start anyway. -/
theorem trim_trimStart (t : Text) : trim (trimStart t) = trim t := by
  have padded := trim_padded (isPadding_takeWhile t) (rfl : isPadding [] = true) (trimStart t)
  rw [List.append_nil, takeWhile_append_trimStart] at padded
  exact padded.symm

/-- Trimming twice is trimming once. -/
theorem trim_trim (t : Text) : trim (trim t) = trim t :=
  (trim_trimEnd (trimStart t)).trans (trim_trimStart t)

/-- A trimmed text has no blanks at its head. -/
theorem trimStart_trim (t : Text) : trimStart (trim t) = trim t := by
  obtain ⟨pad, _, same⟩ := trim_append_padding_eq t
  cases core : trim t with
  | nil => rfl
  | cons c rest =>
      have head : trimStart t = c :: (rest ++ pad) := by rw [← same, core, List.cons_append]
      have solid : isBlank c = false := by
        have first := List.head?_dropWhile_not isBlank t
        rw [← trimStart, head] at first
        simpa using first
      exact trimStart_cons solid rest

/-- A text without blanks at its ends is left as it is. -/
theorem trim_eq_self {first last : Char} {t : Text} (front : t.head? = some first)
    (back : t.getLast? = some last) (solidFirst : isBlank first = false)
    (solidLast : isBlank last = false) : trim t = t := by
  obtain ⟨rest, rfl⟩ := List.head?_eq_some_iff.1 front
  rw [trim, trimStart_cons solidFirst]
  obtain ⟨start, ends⟩ := List.getLast?_eq_some_iff.1 back
  rw [ends, trimEnd_concat solidLast]

/-- A text without blanks is left as it is. -/
theorem trim_of_solid {t : Text} (solid : t.isSolidText = true) : trim t = t := by
  rw [isSolidText_iff] at solid
  cases front : t.head? with
  | none => simp [List.head?_eq_none_iff.1 front, trim, trimStart, trimEnd]
  | some first =>
      have nonempty : t ≠ [] := fun empty => by simp [empty] at front
      exact trim_eq_self front (List.getLast?_eq_some_getLast nonempty)
        (solid first (List.mem_of_head? front)) (solid _ (List.getLast_mem nonempty))

/-! ### The first word -/

/-- What precedes the first blank is the longest run without blanks. -/
theorem splitFirstBlank_eq_some {t before after : Text}
    (split : splitFirstBlank t = some (before, after)) :
    (∃ gap, isBlank gap = true ∧ t = before ++ gap :: after) ∧
      t.takeWhile (fun c => !isBlank c) = before := by
  unfold splitFirstBlank at split
  split at split
  · exact absurd split (by simp)
  · rename_i front gap rest run
    obtain ⟨rfl, rfl⟩ := Prod.mk.inj (Option.some.inj split)
    obtain ⟨same, behind⟩ := Prod.mk.inj run
    refine ⟨⟨gap, ?_, ?_⟩, same⟩
    · have first := List.head?_dropWhile_not (fun c => !isBlank c) t
      rw [behind] at first
      simpa using first
    · rw [← same, ← behind, List.takeWhile_append_dropWhile]

/-- The first word of a text. -/
def headWord (t : Text) : Text :=
  (trimStart t).takeWhile fun c => !isBlank c

/-- Blanks behind a text are no part of the word at its head. -/
theorem takeWhile_solid_append_padding {pad : Text} (blank : pad.isPadding = true) (t : Text) :
    (t ++ pad).takeWhile (fun c => !isBlank c) = t.takeWhile fun c => !isBlank c := by
  induction t with
  | nil =>
      cases pad with
      | nil => rfl
      | cons c pad => simp [isPadding_iff.1 blank c List.mem_cons_self]
  | cons c t ih => by_cases hc : isBlank c <;> simp [hc, ih]

/-- The first word goes to the first blank of the trimmed text. -/
theorem headWord_eq_takeWhile (t : Text) : headWord t = (trim t).takeWhile fun c => !isBlank c := by
  obtain ⟨pad, blank, same⟩ := trim_append_padding_eq t
  rw [headWord, ← same, takeWhile_solid_append_padding blank]

/-- A row of characters that are no blanks, at the head of a trimmed text, begins the first word. -/
theorem headWord_eq_append {t word rest : Text} (solid : word.isSolidText = true)
    (start : trimStart t = word ++ rest) :
    headWord t = word ++ rest.takeWhile fun c => !isBlank c := by
  rw [headWord, start, List.takeWhile_append_of_pos]
  simpa [isSolidText_iff] using solid

/-- The first word ends at a blank. -/
theorem headWord_eq {t word rest : Text} {c : Char} (solid : word.isSolidText = true)
    (blank : isBlank c = true) (start : trimStart t = word ++ c :: rest) : headWord t = word := by
  rw [headWord_eq_append solid start]
  simp [blank]

/-- The only word of a text is its first. -/
theorem headWord_eq_of_padding {t word pad : Text} (solid : word.isSolidText = true)
    (blank : pad.isPadding = true) (start : trimStart t = word ++ pad) : headWord t = word := by
  rw [headWord_eq_append solid start, ← List.nil_append pad, takeWhile_solid_append_padding blank]
  simp

end Text

end MailTemplate
