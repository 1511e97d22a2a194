/-
Module: MailTemplate.Text.LetterCase
Purpose: Comparing letters without regard to case.
Main exports: sameLetter, Text.lowerAscii, Text.takeLetters?
-/
import MailTemplate.Text.Basic

/-!
Tag and attribute names are matched without regard to case.  Two notions occur.  Element names compare
by ASCII letters alone.  The fixed words `script`, `style`, `class` and `id` are matched by simple case
folding, under which the long s (U+017F) folds to `s` and the Kelvin sign (U+212A) to `k`; no other
character outside ASCII folds to an ASCII letter.
-/

namespace MailTemplate

/-- A character's representative under simple case folding, as far as it is an ASCII letter. -/
def foldLetter (c : Char) : Char :=
  if c = '\u017f' then 's' else if c = '\u212a' then 'k' else c.toLower

/-- Whether two characters are the same letter up to case. -/
def sameLetter (a b : Char) : Bool :=
  foldLetter a == foldLetter b

namespace Text

/-- A text with its ASCII letters in lower case. -/
def lowerAscii (t : Text) : Text :=
  t.map Char.toLower

/-- What follows `word` at the head of a text, if it stands there up to letter case: the characters
that stand for it, and the rest. -/
def takeLetters? : Text → Text → Option (Text × Text)
  | [], t => some ([], t)
  | _ :: _, [] => none
  | w :: word, c :: t =>
      if sameLetter w c then (takeLetters? word t).map fun (taken, rest) => (c :: taken, rest) else none

theorem takeLetters?_append {word t taken rest : Text}
    (h : takeLetters? word t = some (taken, rest)) : t = taken ++ rest := by
  induction word generalizing t taken with
  | nil =>
      simp only [takeLetters?, Option.some.injEq, Prod.mk.injEq] at h
      simp [← h.1, h.2]
  | cons w word ih =>
      cases t with
      | nil => simp [takeLetters?] at h
      | cons c t =>
          rw [takeLetters?] at h
          split at h
          · obtain ⟨⟨taken', rest'⟩, inner, same⟩ := Option.map_eq_some_iff.1 h
            simp only [Prod.mk.injEq] at same
            obtain ⟨rfl, rfl⟩ := same
            rw [ih inner, List.cons_append]
          · exact absurd h (by simp)

end Text

end MailTemplate
