/-
Module: MailTemplate.Proofs.Keyed
Purpose: Keyed directives: what the passes make of a key, possibly with a plus sign, and a comma.
Main exports: isVariableCharacter, Text.isVariableName, Directive.keyed, Directive.not_silent_keyed,
  Segment.role_keyed, IndexedKey.renumber_keyed, Segment.copy_keyed, Directive.clause_keyed
-/
import MailTemplate.Proofs.Printed
import MailTemplate.Proofs.Role

/-!
A keyed directive holds the name of a variable, perhaps a plus sign, a comma, and anything behind
it.  The comma stands in its first word, which therefore is no word of the structural grammar.  A
copy of a loop body changes nothing but the name, and the name is only a label: what is printed
depends on what follows the comma.
-/

namespace MailTemplate

/-! ### Names of variables -/

/-- The characters besides blanks that separate, enclose or mark something in a directive. -/
def markCharacters : List Char :=
  [',', '+', '/', '\\', '\'', '"', '{', '}', '[', ']', '(', ')']

/-- Whether a character can occur in the name of a variable: letters and digits of any script, the
underscore, the hyphen and the full stop can. -/
def isVariableCharacter (c : Char) : Bool :=
  !isBlank c && !markCharacters.contains c

/-- Whether a text is the name of a variable. -/
def Text.isVariableName (t : Text) : Bool :=
  !t.isEmpty && t.all isVariableCharacter

/-- Names hold no blanks. -/
theorem isBlank_of_isVariableCharacter {c : Char} (h : isVariableCharacter c = true) :
    isBlank c = false := by
  rw [isVariableCharacter, Bool.and_eq_true] at h
  simpa using h.1

theorem isVariableCharacter_of_isAlphanum {c : Char} (h : c.isAlphanum = true) :
    isVariableCharacter c = true := by
  change (decide (65 ≤ c.val ∧ c.val ≤ 90) || (decide (97 ≤ c.val) && decide (c.val ≤ 122)) ||
    (decide (48 ≤ c.val) && decide (c.val ≤ 57))) = true at h
  simp only [Bool.or_eq_true, Bool.and_eq_true, decide_eq_true_eq, UInt32.le_iff_toNat_le] at h
  change ((65 ≤ c.toNat ∧ c.toNat ≤ 90) ∨ (97 ≤ c.toNat ∧ c.toNat ≤ 122)) ∨
    (48 ≤ c.toNat ∧ c.toNat ≤ 57) at h
  by_contra other
  simp only [isVariableCharacter, Bool.not_eq_true, Bool.and_eq_false_iff, Bool.not_eq_false',
    List.contains_iff_mem, markCharacters, List.mem_cons, List.not_mem_nil, or_false] at other
  rcases other with blank | mark
  · simp only [isBlank, Text.Ranges.contains, Text.blankRanges, List.any_cons, List.any_nil,
      Bool.or_eq_true, Bool.and_eq_true, decide_eq_true_eq, Bool.false_eq_true, or_false] at blank
    omega
  · rcases mark with rfl | rfl | rfl | rfl | rfl | rfl | rfl | rfl | rfl | rfl | rfl | rfl <;>
    exact absurd h (by decide)

/-- What is no character of names does not occur in one. -/
theorem Text.not_mem_of_isVariableName {t : Text} (name : t.isVariableName = true) {c : Char}
    (other : isVariableCharacter c = false) : c ∉ t := by
  intro inside
  rw [isVariableName, Bool.and_eq_true, List.all_eq_true] at name
  rw [name.2 c inside] at other
  exact absurd other (by simp)

theorem Text.ne_nil_of_isVariableName {t : Text} (name : t.isVariableName = true) : t ≠ [] := by
  rintro rfl
  exact absurd name (by decide)

theorem Text.isSolidText_of_isVariableName {t : Text} (name : t.isVariableName = true) :
    t.isSolidText = true := by
  rw [isVariableName, Bool.and_eq_true, List.all_eq_true] at name
  rw [isSolidText_iff]
  intro c inside
  exact isBlank_of_isVariableCharacter (name.2 c inside)

/-- Names hold no braces. -/
theorem Text.isBraceFree_of_isVariableName {t : Text} (name : t.isVariableName = true) :
    t.isBraceFree = true :=
  isBraceFree_iff.2 ⟨not_mem_of_isVariableName name (by decide),
    not_mem_of_isVariableName name (by decide)⟩

/-- Names hold no quote marks. -/
theorem Text.isUnquoted_of_isVariableName {t : Text} (name : t.isVariableName = true) :
    t.isUnquoted = true := by
  rw [isUnquoted_iff]
  intro c inside
  by_contra quote
  rcases isQuote_iff.1 (by simpa using quote) with rfl | rfl
  · exact not_mem_of_isVariableName name (by decide) inside
  · exact not_mem_of_isVariableName name (by decide) inside

/-- What is put behind a key to number it is a name by itself. -/
theorem Text.isVariableName_number (n : Nat) :
    Text.isVariableName ('_' :: Text.ofNat n) = true := by
  rw [isVariableName, Bool.and_eq_true, List.all_eq_true]
  refine ⟨rfl, fun c inside => ?_⟩
  rcases List.mem_cons.1 inside with rfl | digit
  · decide
  · apply isVariableCharacter_of_isAlphanum
    simp [Char.isAlphanum, Text.isDigit_of_mem_ofNat digit]

/-- A name with the number of a copy is a name. -/
theorem Text.isVariableName_numbered {t : Text} (name : t.isVariableName = true) (n : Nat) :
    Text.isVariableName (t ++ '_' :: Text.ofNat n) = true := by
  have number := isVariableName_number n
  rw [isVariableName, Bool.and_eq_true] at name number ⊢
  rw [List.all_append, Bool.and_eq_true]
  exact ⟨by simp, name.2, number.2⟩

/-! ### Keyed directives -/

/-- The body of a keyed directive. -/
def Directive.keyed (before name : Text) (plus : Bool) (rest : Text) : Text :=
  before ++ (name ++ (if plus then ['+'] else []) ++ ',' :: rest)

/-- Behind the key of a keyed directive stands its first top-level comma. -/
theorem Directive.splitTopLevelComma?_name {name : Text} (named : name.isVariableName = true)
    (plus : Bool) (after : Text) :
    splitTopLevelComma? (name ++ (if plus then ['+'] else []) ++ ',' :: after) =
      some (name ++ (if plus then ['+'] else []), after) := by
  have onto (front taken : Text) (previous : Char)
      (plain : ∀ c ∈ front, isVariableCharacter c = true ∨ c = '+') :
      splitTopLevelCommaOnto taken previous none 0 (front ++ ',' :: after) =
        some (taken.reverse ++ front, after) := by
    induction front generalizing taken previous with
    | nil => simp [splitTopLevelCommaOnto, quoteAfter, isQuote]
    | cons c front ih =>
        have rest := ih (c :: taken) c fun d inside => plain d (List.mem_cons_of_mem _ inside)
        have other {d : Char} (odd : isVariableCharacter d = false) (different : d ≠ '+') :
            c ≠ d := by
          rintro rfl
          rcases plain c List.mem_cons_self with usual | plus
          · rw [usual] at odd
            exact absurd odd (by simp)
          · exact different plus
        have quote : isQuote c = false := by
          simp [isQuote, other (d := '"') (by decide) (by decide),
            other (d := '\'') (by decide) (by decide)]
        simp only [List.cons_append, splitTopLevelCommaOnto, quoteAfter, quote]
        simp [other (d := '{') (by decide) (by decide), other (d := '}') (by decide) (by decide),
          other (d := '[') (by decide) (by decide), other (d := ']') (by decide) (by decide),
          other (d := '(') (by decide) (by decide), other (d := ')') (by decide) (by decide),
          other (d := ',') (by decide) (by decide), rest]
  refine onto _ [] ' ' fun c inside => ?_
  rw [Text.isVariableName, Bool.and_eq_true, List.all_eq_true] at named
  rcases List.mem_append.1 inside with early | late
  · exact .inl (named.2 c early)
  · cases plus <;> simp_all

section Keyed

variable {before name rest : Text} (blank : before.isPadding = true)
    (named : name.isVariableName = true)

include blank named

/-- Trimmed, a keyed directive begins with its name. -/
theorem Directive.trimStart_keyed (plus : Bool) :
    Text.trimStart (keyed before name plus rest) =
      name ++ (if plus then ['+'] else []) ++ ',' :: rest := by
  have solid := Text.isSolidText_of_isVariableName named
  have nonempty := Text.ne_nil_of_isVariableName named
  rw [keyed, Text.trimStart_padding_append blank, List.append_assoc,
    Text.trimStart_word_append solid nonempty]

/-- The comma belongs to the first word of a keyed directive. -/
theorem Directive.comma_mem_headWord (plus : Bool) :
    ',' ∈ Text.headWord (keyed before name plus rest) := by
  have solid : Text.isSolidText (name ++ (if plus then ['+'] else []) ++ [',']) = true := by
    have own := Text.isSolidText_of_isVariableName named
    rw [Text.isSolidText] at own ⊢
    rw [List.all_append, List.all_append, own]
    cases plus <;> decide
  have start : Text.trimStart (keyed before name plus rest) =
      name ++ (if plus then ['+'] else []) ++ [','] ++ rest := by
    rw [trimStart_keyed blank named]
    simp
  rw [Text.headWord_eq_append solid start]
  simp

/-- The first word of a keyed directive reaches to the comma or beyond, so it is none of the fixed
ones. -/
theorem Directive.headWord_keyed_ne {w : Text} (plain : ',' ∉ w) (plus : Bool) :
    Text.headWord (keyed before name plus rest) ≠ w := by
  intro same
  exact plain (same ▸ comma_mem_headWord blank named plus)

/-- A keyed directive prints a value. -/
theorem Directive.not_silent_keyed (plus : Bool) :
    isSilent (keyed before name plus rest) = false := by
  by_contra silent
  rcases headWord_of_isSilent (by simpa using silent) with known | slash
  · have plain : ∀ w ∈ loneWords ++ argumentWords, ',' ∉ w := by decide
    exact headWord_keyed_ne blank named (plain _ known) plus rfl
  · have start : Text.trimStart (keyed before name plus rest) = _ :=
      trimStart_keyed blank named plus
    obtain ⟨c, name, rfl⟩ := List.exists_cons_of_ne_nil (Text.ne_nil_of_isVariableName named)
    have solid := Text.isSolidText_iff.1
      (Text.isSolidText_of_isVariableName named) c List.mem_cons_self
    rw [Text.headWord, start] at slash
    simp only [List.cons_append, List.takeWhile_cons, solid, Bool.not_false, if_true,
      List.head?_cons, Option.some.injEq] at slash
    subst slash
    exact Text.not_mem_of_isVariableName named (by decide) List.mem_cons_self

/-- A keyed directive is no loop tag. -/
theorem LoopTag.valueOf?_keyed {plus : Bool}
    (flat : (Directive.keyed before name plus rest).isBraceFree = true) :
    LoopTag.pattern.valueOf? (Directive.keyed before name plus rest) = none := by
  cases read : LoopTag.pattern.valueOf? (Directive.keyed before name plus rest) with
  | none => rfl
  | some tag =>
      rcases LoopTag.headWord_of_valueOf? flat read with same | same
      · exact absurd same (Directive.headWord_keyed_ne blank named (by decide) plus)
      · exact absurd same (Directive.headWord_keyed_ne blank named (by decide) plus)

/-- A keyed directive means nothing to the structural passes. -/
theorem Segment.role_keyed {plus : Bool}
    (flat : (Directive.keyed before name plus rest).isBraceFree = true) :
    (directive (Directive.keyed before name plus rest)).role = {} :=
  role_of_not_silent flat (Directive.not_silent_keyed blank named plus)
    (LoopTag.valueOf?_keyed blank named flat)

/-! ### Copies of keyed directives -/

/-- All that stands in front of the plus sign may stand in a key. -/
theorem IndexedKey.isKeyCharacter_front : ∀ c ∈ before ++ name, isKeyCharacter c = true := by
  intro c inside
  have other {d : Char} (solid : isBlank d = false) (odd : isVariableCharacter d = false) :
      c ≠ d := by
    rintro rfl
    rcases List.mem_append.1 inside with early | late
    · rw [Text.isPadding_iff.1 blank c early] at solid
      exact absurd solid (by simp)
    · exact Text.not_mem_of_isVariableName named odd late
  have comma := other (d := ',') (by decide) (by decide)
  have opens := other (d := '{') (by decide) (by decide)
  have closes := other (d := '}') (by decide) (by decide)
  have plus := other (d := '+') (by decide) (by decide)
  simp [isKeyCharacter, comma, opens, closes, plus]

/-- A plus sign in front of the comma asks for a number. -/
theorem IndexedKey.split?_plus : split? (Directive.keyed before name true rest) =
    some (name, rest) := by
  have nonempty : before ++ name ≠ [] := by simp [Text.ne_nil_of_isVariableName named]
  have whole : Directive.keyed before name true rest =
      before ++ name ++ '+' :: ([] ++ ',' :: rest) := by
    simp [Directive.keyed]
  have trimmed : Text.trim (before ++ name) = name := by
    have padded := Text.trim_padded blank (rfl : Text.isPadding [] = true) name
    rw [List.append_nil] at padded
    rw [padded, Text.trim_of_solid (Text.isSolidText_of_isVariableName named)]
  rw [whole, split?_eq nonempty (isKeyCharacter_front blank named) rfl, trimmed]

/-- Without a plus sign nothing is split off. -/
theorem IndexedKey.split?_no_plus : split? (Directive.keyed before name false rest) = none := by
  have nonempty : before ++ name ≠ [] := by simp [Text.ne_nil_of_isVariableName named]
  have whole : Directive.keyed before name false rest = before ++ name ++ ',' :: rest := by
    simp [Directive.keyed]
  rw [whole, split?_comma nonempty (isKeyCharacter_front blank named)]

/-- A copy numbers the key if a plus sign stands behind it. -/
theorem IndexedKey.renumber_keyed (plus : Bool) (index : Nat) :
    renumber index (Directive.keyed before name plus rest) =
      if plus then Directive.keyed [] (name ++ '_' :: Text.ofNat (index + 1)) false rest
      else Directive.keyed before name false rest := by
  cases plus with
  | true =>
      simp only [renumber, split?_plus blank named]
      simp [Directive.keyed]
  | false => simp [renumber, split?_no_plus blank named]

/-- A copy of a keyed directive has the number in its name, if it asks for one. -/
theorem Segment.copy_keyed {plus : Bool}
    (flat : (Directive.keyed before name plus rest).isBraceFree = true) (index : Nat) :
    (directive (Directive.keyed before name plus rest)).copy index =
      .directive (if plus then Directive.keyed [] (name ++ '_' :: Text.ofNat (index + 1)) false rest
        else Directive.keyed before name false rest) := by
  have other := IndexTag.valueOf?_eq_none flat (Directive.not_silent_keyed blank named plus)
  rw [copy_of_not_placeholder other, IndexedKey.renumber_keyed blank named]

/-! ### What keyed directives print -/

/-- What a keyed directive prints depends on nothing but what follows the comma. -/
theorem Directive.clause_keyed (plus : Bool) : clause (Text.trim (keyed before name plus rest)) =
    match unquoted? (Text.trim rest) with
    | some t => .literal t
    | none => .variable (Text.trim rest) := by
  have comma : Text.trimEnd (',' :: rest) = ',' :: Text.trimEnd rest :=
    Text.trimEnd_cons (by decide) rest
  have trimmed : Text.trim (keyed before name plus rest) =
      name ++ (if plus then ['+'] else []) ++ ',' :: Text.trimEnd rest := by
    rw [Text.trim, trimStart_keyed blank named, Text.trimEnd_append (by simp [comma]), comma]
  rw [trimmed, clause, splitTopLevelComma?_name named]
  cases quoted : unquoted? (Text.trim rest) <;> simp only [Text.trim_trimEnd, quoted]

end Keyed

end MailTemplate
