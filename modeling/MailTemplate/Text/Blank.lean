/-
Module: MailTemplate.Text.Blank
Purpose: White space, and trimming and splitting by it.
Main exports: isBlank, Text.trim, Text.trimEnd, Text.words, Text.splitFirstBlank
-/
import MailTemplate.Text.Basic

/-!
Blank characters are those with the Unicode property White_Space: 25 characters in ten ranges.  A zero
width space or a byte order mark is not among them, a no-break space is.
-/

namespace MailTemplate

namespace Text

/-- The ranges of the Unicode property White_Space. -/
def blankRanges : Ranges :=
  [(0x09, 0x0D), (0x20, 0x20), (0x85, 0x85), (0xA0, 0xA0), (0x1680, 0x1680), (0x2000, 0x200A),
   (0x2028, 0x2029), (0x202F, 0x202F), (0x205F, 0x205F), (0x3000, 0x3000)]

end Text

/-- Whether a character is white space. -/
def isBlank (c : Char) : Bool :=
  Text.blankRanges.contains c

namespace Text

/-- A text without the blanks at its head. -/
def trimStart (t : Text) : Text :=
  t.dropWhile isBlank

/-- A text without the blanks at its end. -/
def trimEnd (t : Text) : Text :=
  (t.reverse.dropWhile isBlank).reverse

/-- A text without the blanks at either end. -/
def trim (t : Text) : Text :=
  trimEnd (trimStart t)

/-- The words of a text: its maximal runs of characters that are not blank. -/
def words (t : Text) : List Text :=
  (wordsOnto [] t).filter fun w => !w.isEmpty
where
  wordsOnto (word : Text) : Text → List Text
    | [] => [word.reverse]
    | c :: rest => if isBlank c then word.reverse :: wordsOnto [] rest else wordsOnto (c :: word) rest

/-- What stands before and after the first blank, if there is one. -/
def splitFirstBlank (t : Text) : Option (Text × Text) :=
  match takeRun (fun c => !isBlank c) t with
  | (_, []) => none
  | (before, _ :: after) => some (before, after)

end Text

/-- Every character that core calls white space is blank; the table only adds to it. -/
theorem isBlank_of_isWhitespace {c : Char} (h : c.isWhitespace = true) : isBlank c = true := by
  simp only [Char.isWhitespace, Bool.or_eq_true, decide_eq_true_eq] at h
  rcases h with ((h | h) | h) | h <;> subst h <;> decide

/-- A letter, a brace and a zero width space are not blank. -/
theorem isBlank_letter : isBlank 'a' = false ∧ isBlank '{' = false ∧ isBlank '\u200b' = false := by
  decide

end MailTemplate
