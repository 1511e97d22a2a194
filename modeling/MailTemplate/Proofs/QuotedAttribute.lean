/-
Module: MailTemplate.Proofs.QuotedAttribute
Purpose: How attributes in quote marks are read, where their values hide no others.
Main exports: Attribute.quoted_read_iff, QuotedAttribute, QuotedAttribute.hides,
  QuotedAttribute.erase_row, QuotedAttribute.attribute?_row, QuotedAttribute.row_append_inj
-/
import Mathlib.Data.List.Infix
import MailTemplate.Proofs.ElementName

/-!
Attributes are looked for in the text of a tag as it stands, so the value of one attribute may hold
what is read as another.  Where no value does, the attributes that are read are those that are
written: all of a name are taken out, the others are kept as they are, and the value for a name is
that of the first attribute so named.

A row of attributes can be read in one way only.
-/

namespace MailTemplate

/-! ### Reading an attribute -/

namespace Attribute

/-- What a quoted attribute is written like, with blanks around its sign. -/
theorem quoted_read_iff {name : String} {quote : Char} (solid : isBlank quote = false)
    {t rest : Text} {hit : Hit Text} :
    (quoted name quote).read t = some (hit, rest) ↔
      ∃ gap word pad space value, isBlank gap = true ∧ MarkupBlock.Spells name word ∧
        Text.isPadding pad = true ∧ Text.isPadding space = true ∧ quote ∉ value ∧
        t = gap :: (word ++ (pad ++ '=' :: (space ++ quote :: (value ++ quote :: rest)))) ∧
        hit = ⟨gap :: (word ++ (pad ++ '=' :: (space ++ quote :: (value ++ [quote])))), value⟩ := by
  constructor
  · intro read
    obtain ⟨pieces, whole, rfl⟩ := Shape.take?_of_read read
    obtain ⟨_, _, _, first, behindGap, rfl⟩ := Shape.take?_cons whole
    obtain rfl := Part.take?_append first
    obtain ⟨gap, rfl, blank⟩ := Part.accepts_of_take? first
    obtain ⟨word, _, _, spelled, behindName, rfl⟩ := Shape.take?_cons behindGap
    obtain rfl := Part.take?_append spelled
    obtain ⟨pad, _, _, blanks, behindPad, rfl⟩ := Shape.take?_cons behindName
    obtain rfl := Part.take?_append blanks
    obtain ⟨_, _, rfl, behindSign, rfl⟩ := Shape.take?_word_cons behindPad
    obtain ⟨space, _, _, spaces, behindSpace, rfl⟩ := Shape.take?_cons behindSign
    obtain rfl := Part.take?_append spaces
    obtain ⟨_, _, rfl, behindQuote, rfl⟩ := Shape.take?_word_cons behindSpace
    obtain ⟨value, _, _, inner, behindValue, rfl⟩ := Shape.take?_cons behindQuote
    obtain rfl := Part.take?_append inner
    obtain ⟨_, _, rfl, nothing, rfl⟩ := Shape.take?_word_cons behindValue
    obtain ⟨rfl, rfl⟩ := Prod.mk.inj (Option.some.inj nothing)
    have spelled := Text.takeLetters?_append_piece spelled []
    rw [List.append_nil] at spelled
    have closed : ∀ c ∈ value, (c != quote) = true := Part.accepts_of_take? inner
    refine ⟨gap, word, pad, space, value, blank, spelled, ?_, ?_, ?_, by simp, by simp⟩
    · exact Text.isPadding_iff.2 (Part.accepts_of_take? blanks)
    · exact Text.isPadding_iff.2 (Part.accepts_of_take? spaces)
    · exact fun inside => by simpa using closed _ inside
  · rintro ⟨gap, word, pad, space, value, blank, spelled, blanks, spaces, closed, rfl, rfl⟩
    have first : (Part.one isBlank).take?
        (gap :: (word ++ (pad ++ '=' :: (space ++ quote :: (value ++ quote :: rest))))) =
          some ([gap], word ++ (pad ++ '=' :: (space ++ quote :: (value ++ quote :: rest)))) :=
      if_pos blank
    have letters : (Part.letters name.toList).take?
        (word ++ (pad ++ '=' :: (space ++ quote :: (value ++ quote :: rest)))) =
          some (word, pad ++ '=' :: (space ++ quote :: (value ++ quote :: rest))) :=
      Text.takeLetters?_append_piece spelled _
    have before : (Part.many isBlank).take?
        (pad ++ '=' :: (space ++ quote :: (value ++ quote :: rest))) =
          some (pad, '=' :: (space ++ quote :: (value ++ quote :: rest))) :=
      Part.take?_many (Text.isPadding_iff.1 blanks) (by decide) _
    have sign : (Part.word ['=']).take? ('=' :: (space ++ quote :: (value ++ quote :: rest))) =
        some (['='], space ++ quote :: (value ++ quote :: rest)) :=
      Part.take?_word_append ['='] _
    have behind : (Part.many isBlank).take? (space ++ quote :: (value ++ quote :: rest)) =
        some (space, quote :: (value ++ quote :: rest)) :=
      Part.take?_many (Text.isPadding_iff.1 spaces) solid _
    have mark (t : Text) : (Part.word [quote]).take? (quote :: t) = some ([quote], t) :=
      Part.take?_word_append [quote] t
    have inner : (Part.many (· != quote)).take? (value ++ quote :: rest) =
        some (value, quote :: rest) :=
      Part.take?_many (Text.bne_of_not_mem closed) (by simp) rest
    simp [quoted, shape, Shape.pattern, Shape.take?, first, letters, before, sign, behind, mark,
      inner]

/-- What is read as an attribute begins with a blank, and spells the name in front of an equals
sign. -/
theorem spells_of_read {name : String} {t : Text} (read : ((pattern name).read t).isSome = true) :
    ∃ gap word pad rest, isBlank gap = true ∧ MarkupBlock.Spells name word ∧
      Text.isPadding pad = true ∧ t = gap :: (word ++ (pad ++ '=' :: rest)) := by
  obtain ⟨⟨hit, behind⟩, found⟩ := Option.isSome_iff_exists.1 read
  rcases Pattern.read_orElse found with double | single
  · obtain ⟨gap, word, pad, _, _, blank, spelled, blanks, _, _, whole, _⟩ :=
      (quoted_read_iff (by decide)).1 double
    exact ⟨gap, word, pad, _, blank, spelled, blanks, whole⟩
  · obtain ⟨gap, word, pad, _, _, blank, spelled, blanks, _, _, whole, _⟩ :=
      (quoted_read_iff (by decide)).1 single
    exact ⟨gap, word, pad, _, blank, spelled, blanks, whole⟩

/-- An attribute begins with a blank. -/
theorem read_cons_solid (name : String) {c : Char} (solid : isBlank c = false) (t : Text) :
    (pattern name).read (c :: t) = none := by
  rw [← Option.isNone_iff_eq_none, ← Option.isSome_eq_false_iff, Bool.eq_false_iff]
  intro read
  obtain ⟨gap, _, _, _, blank, _, _, whole⟩ := spells_of_read read
  rw [← (List.cons.inj whole).1, solid] at blank
  exact absurd blank (by simp)

/-- Without an equals sign there is no attribute. -/
theorem read_of_not_mem (name : String) {t : Text} (clear : '=' ∉ t) :
    (pattern name).read t = none := by
  rw [← Option.isNone_iff_eq_none, ← Option.isSome_eq_false_iff, Bool.eq_false_iff]
  intro read
  obtain ⟨_, _, _, _, _, _, _, rfl⟩ := spells_of_read read
  exact clear (by simp)

end Attribute

/-- No attribute begins in a text without blanks. -/
theorem Attribute.scan_append_solid (name : String) {s : Text}
    (solid : ∀ c ∈ s, isBlank c = false) (rest : Text) :
    (pattern name).scan (s ++ rest) = s.map .plain ++ (pattern name).scan rest := by
  refine Pattern.scan_append_unread fun front c back same => ?_
  exact read_cons_solid name (solid c (same ▸ by simp)) _

/-- There is no attribute without its sign. -/
theorem Attribute.scan_of_not_mem (name : String) {t : Text} (clear : '=' ∉ t) :
    (pattern name).scan t = t.map .plain := by
  have passed : (pattern name).scan (t ++ []) = t.map .plain ++ (pattern name).scan [] :=
    Pattern.scan_append_unread fun front c back same => read_of_not_mem name fun inside =>
      clear (same ▸ List.mem_append_right _ (by simpa using inside))
  simpa [Pattern.scan_nil] using passed

/-! ### Attributes as they are written -/

/-- An attribute with its value in quote marks, behind one blank. -/
structure QuotedAttribute where
  gap : Char
  name : Text
  quote : Char
  value : Text
deriving Repr, Inhabited, DecidableEq

namespace QuotedAttribute

/-- Whether a character may stand in the name of an attribute. -/
def isNameCharacter (c : Char) : Bool :=
  c.isAlphanum || c == '-'

/-- The characters of an attribute. -/
def raw (entry : QuotedAttribute) : Text :=
  entry.gap :: (entry.name ++ '=' :: entry.quote :: (entry.value ++ [entry.quote]))

/-- A name of letters, digits and hyphens, and a value that does not hold its own quote mark. -/
structure IsWellFormed (entry : QuotedAttribute) : Prop where
  gap : isBlank entry.gap = true
  nonempty : entry.name ≠ []
  name : ∀ c ∈ entry.name, isNameCharacter c = true
  quote : isQuote entry.quote = true
  value : entry.quote ∉ entry.value

instance (entry : QuotedAttribute) : Decidable entry.IsWellFormed :=
  have : Decidable (∀ c ∈ entry.name, isNameCharacter c = true) := List.decidableBAll _ _
  decidable_of_iff (_ ∧ entry.name ≠ [] ∧ _ ∧ isQuote entry.quote = true ∧ _)
    ⟨fun own => ⟨own.1, own.2.1, own.2.2.1, own.2.2.2.1, own.2.2.2.2⟩,
      fun own => ⟨own.gap, own.nonempty, own.name, own.quote, own.value⟩⟩

/-- Whether an attribute has a name, up to the case of its letters. -/
def isNamed (word : String) (entry : QuotedAttribute) : Bool :=
  Text.lowerAscii entry.name == word.toList

/-- Whether an attribute of a name is read somewhere in the value of another one, with a text
behind. -/
def hides (word : String) (behind : Text) (entry : QuotedAttribute) : Bool :=
  entry.value.tails.any fun part =>
    ((Attribute.pattern word).read (part ++ entry.quote :: behind)).isSome

variable {entry : QuotedAttribute} {word : String}

/-- What the names of elements and attributes are made of. -/
theorem isNameCharacter_iff {c : Char} :
    isNameCharacter c = true ↔ c.isAlphanum = true ∨ c = '-' := by
  simp [isNameCharacter]

/-- Names hold no blanks. -/
theorem isBlank_of_isNameCharacter {c : Char} (own : isNameCharacter c = true) :
    isBlank c = false := by
  rcases isNameCharacter_iff.1 own with letter | rfl
  · exact isBlank_of_isVariableCharacter (isVariableCharacter_of_isAlphanum letter)
  · decide

/-- A quote mark is no blank. -/
theorem IsWellFormed.mark_solid (own : entry.IsWellFormed) : isBlank entry.quote = false := by
  have mark := own.quote
  simp only [isQuote, Bool.or_eq_true, beq_iff_eq] at mark
  rcases mark with double | single
  · rw [double]
    decide
  · rw [single]
    decide

/-- Blanks are no brackets. -/
theorem not_bracket_of_isBlank {c : Char} (blank : isBlank c = true) : c ≠ '<' ∧ c ≠ '>' := by
  constructor
  all_goals
    rintro rfl
    exact absurd blank (by decide)

/-- No angle bracket stands in an attribute but in its value. -/
theorem IsWellFormed.clear_raw (own : entry.IsWellFormed)
    (clear : ∀ c ∈ entry.value, c ≠ '<' ∧ c ≠ '>') : ∀ c ∈ entry.raw, c ≠ '<' ∧ c ≠ '>' := by
  have mark : entry.quote ≠ '<' ∧ entry.quote ≠ '>' := by
    have own := own.quote
    constructor
    all_goals
      intro same
      rw [same] at own
      exact absurd own (by decide)
  intro c inside
  rw [raw, List.mem_cons, List.mem_append, List.mem_cons, List.mem_cons, List.mem_append,
    List.mem_singleton] at inside
  rcases inside with rfl | name | rfl | rfl | value | rfl
  · exact not_bracket_of_isBlank own.gap
  · constructor
    all_goals
      rintro rfl
      exact absurd (own.name _ name) (by decide)
  · decide
  · exact mark
  · exact clear c value
  · exact mark

/-- Of characters of names, those spell a word in lower case that are it in lower case. -/
theorem takeLetters?_eq_some_iff {letters name : Text}
    (lower : ∀ l ∈ letters, foldLetter l = l) (own : ∀ c ∈ name, isNameCharacter c = true) :
    Text.takeLetters? letters name = some (name, []) ↔ Text.lowerAscii name = letters := by
  induction letters generalizing name with
  | nil => cases name <;> simp [Text.takeLetters?, Text.lowerAscii]
  | cons l letters ih =>
      cases name with
      | nil => simp [Text.takeLetters?, Text.lowerAscii]
      | cons c name =>
          rw [List.forall_mem_cons] at lower own
          have folded : foldLetter c = c.toLower := by
            rw [foldLetter, if_neg, if_neg]
            · rintro rfl
              exact absurd own.1 (by decide)
            · rintro rfl
              exact absurd own.1 (by decide)
          have later := ih lower.2 own.2
          rw [Text.takeLetters?, sameLetter, lower.1, folded]
          have cons : Text.lowerAscii (c :: name) = l :: letters ↔
              c.toLower = l ∧ Text.lowerAscii name = letters :=
            List.cons_eq_cons
          rw [cons, ← later]
          by_cases same : l = c.toLower
          · rw [if_pos (beq_iff_eq.2 same), Option.map_eq_some_iff]
            simp [same]
          · rw [if_neg (by simpa using same)]
            simp [Ne.symm same]

/-- The characters of a row of attributes. -/
def row (entries : List QuotedAttribute) : Text :=
  entries.flatMap raw

theorem row_nil : row [] = [] := rfl

theorem row_cons (entry : QuotedAttribute) (others : List QuotedAttribute) :
    row (entry :: others) = entry.raw ++ row others :=
  List.flatMap_cons

/-- Whether an attribute of another name hides one of the name, in a row with a text behind. -/
def rowHides (word : String) (closing : Text) : List QuotedAttribute → Bool
  | [] => false
  | entry :: others =>
      (!entry.isNamed word && entry.hides word (row others ++ closing)) ||
        rowHides word closing others

/-- Whether an attribute hides one of the name in front of the first that has the name. -/
def leadHides (word : String) (closing : Text) : List QuotedAttribute → Bool
  | [] => false
  | entry :: others =>
      !entry.isNamed word &&
        (entry.hides word (row others ++ closing) || leadHides word closing others)

/-- Whether a word is of letters and digits in lower case. -/
def isPlainWord (word : String) : Bool :=
  word.toList.all fun l => foldLetter l == l && l.isAlphanum

section Word

variable (plain : isPlainWord word = true)

include plain

/-- An attribute is found by its name, whatever the case of its letters. -/
theorem isNamed_iff (own : entry.IsWellFormed) :
    entry.isNamed word = true ↔ MarkupBlock.Spells word entry.name := by
  have lower : ∀ l ∈ word.toList, foldLetter l = l := by
    intro l inside
    have both := List.all_eq_true.1 plain l inside
    rw [Bool.and_eq_true, beq_iff_eq] at both
    exact both.1
  rw [isNamed, beq_iff_eq, MarkupBlock.Spells, takeLetters?_eq_some_iff lower own.name]

/-- An equals sign behind the name ends what is spelled in front of it. -/
theorem eq_of_sign (own : entry.IsWellFormed) {spelling pad rest behind : Text}
    (spelled : MarkupBlock.Spells word spelling) (blanks : Text.isPadding pad = true)
    (same : entry.name ++ '=' :: rest = spelling ++ (pad ++ '=' :: behind)) :
    entry.name = spelling ∧ rest = behind := by
  have folded : (word.toList.all fun l => (foldLetter l).isAlphanum) = true := by
    rw [List.all_eq_true]
    intro l inside
    have both := List.all_eq_true.1 plain l inside
    rw [Bool.and_eq_true, beq_iff_eq] at both
    rw [both.1, both.2]
  have inName : '=' ∉ entry.name := fun inside => absurd (own.name _ inside) (by decide)
  have inSpelling : '=' ∉ spelling ++ pad := by
    rw [List.mem_append, not_or]
    exact ⟨fun inside => absurd (spelled.isWordCharacter folded _ inside) (by decide),
      Text.not_mem_of_isPadding blanks (by decide)⟩
  rw [← List.append_assoc] at same
  obtain ⟨whole, rest⟩ := Text.append_stop_inj inName inSpelling same
  have empty : pad = [] := by
    rw [List.eq_nil_iff_forall_not_mem]
    intro c inside
    have solid := isBlank_of_isNameCharacter
      (own.name c (whole ▸ List.mem_append_right _ inside))
    rw [Text.isPadding_iff.1 blanks c inside] at solid
    exact absurd solid (by simp)
  rw [empty, List.append_nil] at whole
  exact ⟨whole, rest⟩

/-- An attribute of a name is read as it is written. -/
theorem read_of_isNamed (own : entry.IsWellFormed) (named : entry.isNamed word = true)
    (rest : Text) :
    (Attribute.pattern word).read (entry.raw ++ rest) = some (⟨entry.raw, entry.value⟩, rest) := by
  have spelled := (isNamed_iff plain own).1 named
  have here : (Attribute.quoted word entry.quote).read (entry.raw ++ rest) =
      some (⟨entry.raw, entry.value⟩, rest) :=
    (Attribute.quoted_read_iff own.mark_solid).2
      ⟨entry.gap, entry.name, [], [], entry.value, own.gap, spelled, rfl, rfl, own.value,
        by simp [raw], rfl⟩
  have mark := own.quote
  simp only [isQuote, Bool.or_eq_true, beq_iff_eq] at mark
  rcases mark with double | single
  · rw [double] at here
    exact Pattern.orElse_of_some here
  -- Double quote marks are tried first, and they do not stand behind the equals sign.
  · have unread : (Attribute.quoted word '"').read (entry.raw ++ rest) = none := by
      cases read : (Attribute.quoted word '"').read (entry.raw ++ rest) with
      | none => rfl
      | some found =>
          obtain ⟨_, _, _, space, _, _, spelled, blanks, spaces, _, whole, _⟩ :=
            (Attribute.quoted_read_iff (by decide)).1 read
          rw [raw, List.cons_append, List.append_assoc] at whole
          have mark := (eq_of_sign plain own spelled blanks (List.cons.inj whole).2).2
          rw [single] at mark
          cases space with
          | nil => exact absurd (List.cons.inj mark).1 (by decide)
          | cons c space =>
              have blank := Text.isPadding_iff.1 spaces c List.mem_cons_self
              rw [← (List.cons.inj mark).1] at blank
              exact absurd blank (by decide)
    rw [single] at here
    exact (Pattern.orElse_of_none unread).trans here

/-- An attribute of another name is not read. -/
theorem read_of_not_isNamed (own : entry.IsWellFormed) (other : entry.isNamed word = false)
    (rest : Text) : (Attribute.pattern word).read (entry.raw ++ rest) = none := by
  rw [← Option.isNone_iff_eq_none, ← Option.isSome_eq_false_iff, Bool.eq_false_iff]
  intro read
  obtain ⟨_, spelling, _, _, _, spelled, blanks, whole⟩ := Attribute.spells_of_read read
  rw [raw, List.cons_append, List.append_assoc] at whole
  have name := (eq_of_sign plain own spelled blanks (List.cons.inj whole).2).1
  rw [← name, ← isNamed_iff plain own, other] at spelled
  exact absurd spelled (by simp)

/-- Where its value hides no attribute of a name, one of another name is passed over. -/
theorem scan_of_not_isNamed (own : entry.IsWellFormed) (other : entry.isNamed word = false)
    {rest : Text} (plainly : entry.hides word rest = false) :
    (Attribute.pattern word).scan (entry.raw ++ rest) =
      entry.raw.map .plain ++ (Attribute.pattern word).scan rest := by
  have head := read_of_not_isNamed plain own other rest
  -- Behind the gap no blank stands but in the value.
  have name : ∀ c ∈ entry.name ++ ['=', entry.quote], isBlank c = false := by
    intro c inside
    rcases List.mem_append.1 inside with inName | behind
    · exact isBlank_of_isNameCharacter (own.name c inName)
    · rcases List.mem_cons.1 behind with rfl | mark
      · decide
      · rw [List.mem_singleton.1 mark]
        exact own.mark_solid
  have value : ∀ front c back, entry.value = front ++ c :: back →
      (Attribute.pattern word).read (c :: (back ++ ([entry.quote] ++ rest))) = none := by
    intro front c back same
    have part : c :: back ∈ entry.value.tails := (List.mem_tails _ _).2 ⟨front, same.symm⟩
    have unread := List.any_eq_false.1 plainly _ part
    rwa [Bool.not_eq_true, Option.isSome_eq_false_iff, Option.isNone_iff_eq_none] at unread
  have mark : ∀ c ∈ [entry.quote], isBlank c = false :=
    List.forall_mem_singleton.2 own.mark_solid
  have split : entry.raw ++ rest = entry.gap :: ((entry.name ++ ['=', entry.quote]) ++
      (entry.value ++ ([entry.quote] ++ rest))) := by
    simp [raw]
  rw [split] at head ⊢
  rw [Pattern.scan_of_not_read head, Attribute.scan_append_solid word name,
    Pattern.scan_append_unread value, Attribute.scan_append_solid word mark]
  simp [raw]

/-- What is taken out of a row are the attributes of the name. -/
theorem erase_row {entries : List QuotedAttribute} {closing : Text}
    (each : ∀ entry ∈ entries, entry.IsWellFormed) (clear : '=' ∉ closing)
    (plainly : rowHides word closing entries = false) :
    (Attribute.pattern word).erase (row entries ++ closing) =
      row (entries.filter fun entry => !entry.isNamed word) ++ closing := by
  induction entries with
  | nil =>
      rw [row_nil, List.nil_append, Pattern.erase, Pattern.replace,
        Attribute.scan_of_not_mem word clear, List.flatMap_map]
      simp [row_nil]
  | cons entry others ih =>
      rw [List.forall_mem_cons] at each
      rw [rowHides, Bool.or_eq_false_iff] at plainly
      have later := ih each.2 plainly.2
      rw [row_cons, List.append_assoc]
      cases named : entry.isNamed word with
      | true =>
          rw [Pattern.erase_of_read (read_of_isNamed plain each.1 named _), later,
            List.filter_cons_of_neg (by simp [named])]
      | false =>
          rw [named] at plainly
          have passed := scan_of_not_isNamed plain each.1 named (by simpa using plainly.1)
          rw [List.filter_cons_of_pos (by simp [named]), row_cons, List.append_assoc, ← later]
          exact Pattern.replace_of_plain passed _

/-- What is found first in a row is the first attribute of the name. -/
theorem scan_row_of_find? {entries : List QuotedAttribute} {closing : Text}
    (each : ∀ entry ∈ entries, entry.IsWellFormed)
    (plainly : leadHides word closing entries = false) {found : QuotedAttribute}
    (first : entries.find? (·.isNamed word) = some found) :
    ∃ (before : Text) (tokens : List (Token Text)),
      (Attribute.pattern word).scan (row entries ++ closing) =
        before.map .plain ++ .hit ⟨found.raw, found.value⟩ :: tokens := by
  induction entries with
  | nil => exact absurd first (by simp)
  | cons entry others ih =>
      rw [List.forall_mem_cons] at each
      rw [row_cons, List.append_assoc]
      cases named : entry.isNamed word with
      | true =>
          rw [List.find?_cons_of_pos (by simpa using named)] at first
          obtain rfl := Option.some.inj first
          exact ⟨[], _, Pattern.scan_of_read (read_of_isNamed plain each.1 named _)⟩
      | false =>
          rw [leadHides, named, Bool.not_false, Bool.true_and, Bool.or_eq_false_iff] at plainly
          rw [List.find?_cons_of_neg (by simp [named])] at first
          obtain ⟨before, tokens, scan⟩ := ih each.2 plainly.2 first
          refine ⟨entry.raw ++ before, tokens, ?_⟩
          rw [scan_of_not_isNamed plain each.1 named plainly.1, scan, List.map_append,
            List.append_assoc]

/-- Where no attribute has the name, none is found. -/
theorem scan_row_of_find?_eq_none {entries : List QuotedAttribute} {closing : Text}
    (each : ∀ entry ∈ entries, entry.IsWellFormed) (clear : '=' ∉ closing)
    (plainly : leadHides word closing entries = false)
    (unnamed : entries.find? (·.isNamed word) = none) :
    (Attribute.pattern word).scan (row entries ++ closing) =
      (row entries ++ closing).map .plain := by
  induction entries with
  | nil => exact Attribute.scan_of_not_mem word clear
  | cons entry others ih =>
      rw [List.forall_mem_cons] at each
      cases named : entry.isNamed word with
      | true =>
          rw [List.find?_cons_of_pos (by simpa using named)] at unnamed
          exact absurd unnamed (by simp)
      | false =>
          rw [leadHides, named, Bool.not_false, Bool.true_and, Bool.or_eq_false_iff] at plainly
          rw [List.find?_cons_of_neg (by simp [named])] at unnamed
          rw [row_cons, List.append_assoc, scan_of_not_isNamed plain each.1 named plainly.1,
            ih each.2 plainly.2 unnamed, ← List.map_append]

/-- The value that is read for a name is that of the first attribute so named. -/
theorem attribute?_row {entries : List QuotedAttribute} {closing : Text}
    (each : ∀ entry ∈ entries, entry.IsWellFormed) (clear : '=' ∉ closing)
    (plainly : leadHides word closing entries = false) (name : Text) :
    (OpenTag.mk name (row entries ++ closing)).attribute? word =
      (entries.find? (·.isNamed word)).map (·.value) := by
  rw [OpenTag.attribute?, Pattern.find?]
  cases first : entries.find? (·.isNamed word) with
  | none =>
      have scan := scan_row_of_find?_eq_none plain each clear plainly first
      rw [Pattern.findOnto_of_plain scan]
      rfl
  | some found =>
      obtain ⟨before, tokens, scan⟩ := scan_row_of_find? plain each plainly first
      rw [Pattern.findOnto_of_scan scan]
      rfl

end Word

/-- An attribute ends where it is written to end, whatever follows. -/
theorem raw_append_inj {first second : QuotedAttribute} (one : first.IsWellFormed)
    (two : second.IsWellFormed) {s t : Text} (same : first.raw ++ s = second.raw ++ t) :
    first = second ∧ s = t := by
  have inFirst : '=' ∉ first.name := fun inside => absurd (one.name _ inside) (by decide)
  have inSecond : '=' ∉ second.name := fun inside => absurd (two.name _ inside) (by decide)
  simp only [raw, List.cons_append, List.append_assoc, List.nil_append, List.cons.injEq] at same
  obtain ⟨gap, same⟩ := same
  obtain ⟨name, behind⟩ := Text.append_stop_inj inFirst inSecond same
  obtain ⟨quote, behind⟩ := List.cons.inj behind
  have closed := two.value
  rw [← quote] at behind closed
  obtain ⟨value, rest⟩ := Text.append_stop_inj one.value closed behind
  obtain ⟨gap₁, name₁, quote₁, value₁⟩ := first
  obtain ⟨gap₂, name₂, quote₂, value₂⟩ := second
  simp only at gap name quote value
  exact ⟨by rw [gap, name, quote, value], rest⟩

/-- Every attribute has its sign. -/
theorem sign_mem_raw (entry : QuotedAttribute) : '=' ∈ entry.raw := by
  simp [raw]

/-- A row ends where it is written to end, if no equals sign follows. -/
theorem row_append_inj {first second : List QuotedAttribute}
    (one : ∀ entry ∈ first, entry.IsWellFormed) (two : ∀ entry ∈ second, entry.IsWellFormed)
    {s t : Text} (clear : '=' ∉ s) (free : '=' ∉ t) (same : row first ++ s = row second ++ t) :
    first = second ∧ s = t := by
  induction first generalizing second with
  | nil =>
      cases second with
      | nil => exact ⟨rfl, same⟩
      | cons entry others =>
          rw [row_nil, List.nil_append, row_cons, List.append_assoc] at same
          exact absurd (same ▸ List.mem_append_left _ entry.sign_mem_raw) clear
  | cons entry others ih =>
      cases second with
      | nil =>
          rw [row_nil, List.nil_append, row_cons, List.append_assoc] at same
          exact absurd (same ▸ List.mem_append_left _ entry.sign_mem_raw) free
      | cons other more =>
          rw [List.forall_mem_cons] at one two
          rw [row_cons, row_cons, List.append_assoc, List.append_assoc] at same
          obtain ⟨rfl, behind⟩ := raw_append_inj one.1 two.1 same
          obtain ⟨rfl, rest⟩ := ih one.2 two.2 behind
          exact ⟨rfl, rest⟩

/-- A row ends with a quote mark. -/
theorem exists_mark_of_row {entries : List QuotedAttribute} (nonempty : entries ≠ [])
    (each : ∀ entry ∈ entries, entry.IsWellFormed) :
    ∃ front mark, row entries = front ++ [mark] ∧ isBlank mark = false ∧ mark ≠ '/' := by
  obtain ⟨front, last, rfl⟩ := (List.eq_nil_or_concat entries).resolve_left nonempty
  have own := each last (by simp)
  refine ⟨row front ++ last.gap :: (last.name ++ '=' :: last.quote :: last.value), last.quote,
    by simp [row, raw], own.mark_solid, ?_⟩
  intro slash
  have mark := own.quote
  rw [slash] at mark
  exact absurd mark (by decide)

/-- The attribute that holds a style. -/
def ofStyle (style : Text) : QuotedAttribute :=
  ⟨' ', "style".toList, '"', style⟩

/-- A style without double quote marks makes a well-formed attribute. -/
theorem isWellFormed_ofStyle {style : Text} (quotable : '"' ∉ style) :
    (ofStyle style).IsWellFormed where
  gap := (by decide : isBlank ' ' = true)
  nonempty := (by decide : "style".toList ≠ [])
  name := List.all_eq_true.1 (by decide : ("style".toList.all isNameCharacter) = true)
  quote := (by decide : isQuote '"' = true)
  value := quotable

/-- The attribute of a style is named so. -/
theorem isNamed_ofStyle (style : Text) : (ofStyle style).isNamed "style" = true :=
  (by decide : (Text.lowerAscii "style".toList == "style".toList) = true)

/-- A row of attributes ends in no blank. -/
theorem trimEnd_row {entries : List QuotedAttribute}
    (each : ∀ entry ∈ entries, entry.IsWellFormed) : Text.trimEnd (row entries) = row entries := by
  by_cases empty : entries = []
  · rw [empty]
    rfl
  · obtain ⟨front, mark, ends, solid, _⟩ := exists_mark_of_row empty each
    rw [ends]
    exact Text.trimEnd_concat solid front

/-- A row of attributes ends in no slash. -/
theorem getLast?_row_ne {entries : List QuotedAttribute}
    (each : ∀ entry ∈ entries, entry.IsWellFormed) : (row entries).getLast? ≠ some '/' := by
  by_cases empty : entries = []
  · rw [empty]
    simp [row_nil]
  · obtain ⟨front, mark, ends, _, other⟩ := exists_mark_of_row empty each
    rw [ends, List.getLast?_concat]
    exact fun same => other (Option.some.inj same)

end QuotedAttribute

end MailTemplate
