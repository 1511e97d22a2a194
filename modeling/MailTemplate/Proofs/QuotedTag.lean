/-
Module: MailTemplate.Proofs.QuotedTag
Purpose: What becomes of the attributes of a tag that gets a style, and which of them select rules.
Main exports: QuotedTag, QuotedTag.eq_of_raw_eq, QuotedTag.styled_reading, restyle_quoted
-/
import MailTemplate.Proofs.BlockFree
import MailTemplate.Proofs.QuotedAttribute

/-!
A tag gets its style in place of the style attributes that it has, behind all others.  The result is a
tag of the same kind, and there is one way only to read it.  Hence it can be said of its text which
attributes it has: besides the style those of the tag before.

Classes and identifiers that select rules are the values of the attributes so named, if no other value
in front of them hides such an attribute.
-/

namespace MailTemplate

/-! ### Tags with such attributes -/

/-- A tag with attributes in quote marks.  If it closes itself, blanks may stand in front of its
slash. -/
structure QuotedTag where
  name : Text
  attributes : List QuotedAttribute
  slash : Option Text
deriving Repr, Inhabited, DecidableEq

namespace QuotedTag

/-- What stands between the attributes and the closing bracket. -/
def closing (tag : QuotedTag) : Text :=
  match tag.slash with
  | none => []
  | some pad => pad ++ ['/']

/-- What the tag is read as. -/
def reading (tag : QuotedTag) : OpenTag :=
  ⟨tag.name, QuotedAttribute.row tag.attributes ++ tag.closing⟩

/-- The characters of a tag. -/
def raw (tag : QuotedTag) : Text :=
  '<' :: (tag.name ++ (QuotedAttribute.row tag.attributes ++ (tag.closing ++ ['>'])))

/-- A name of letters and digits, and attributes with different names. -/
structure IsWellFormed (tag : QuotedTag) : Prop where
  nonempty : tag.name ≠ []
  name : ∀ c ∈ tag.name, c.isAlphanum = true
  attributes : ∀ entry ∈ tag.attributes, entry.IsWellFormed
  distinct : (tag.attributes.map (·.name)).Nodup
  slash : ∀ pad ∈ tag.slash, Text.isPadding pad = true

instance (tag : QuotedTag) : Decidable tag.IsWellFormed :=
  have : Decidable (∀ c ∈ tag.name, c.isAlphanum = true) := List.decidableBAll _ _
  decidable_of_iff
    (tag.name ≠ [] ∧ (∀ c ∈ tag.name, c.isAlphanum = true) ∧
      (∀ entry ∈ tag.attributes, entry.IsWellFormed) ∧ (tag.attributes.map (·.name)).Nodup ∧
      ∀ pad ∈ tag.slash, Text.isPadding pad = true)
    ⟨fun own => ⟨own.1, own.2.1, own.2.2.1, own.2.2.2.1, own.2.2.2.2⟩,
      fun own => ⟨own.nonempty, own.name, own.attributes, own.distinct, own.slash⟩⟩

/-- No angle bracket stands in a value. -/
def IsClear (tag : QuotedTag) : Prop :=
  ∀ entry ∈ tag.attributes, ∀ c ∈ entry.value, c ≠ '<' ∧ c ≠ '>'

instance (tag : QuotedTag) : Decidable tag.IsClear :=
  have (entry : QuotedAttribute) : Decidable (∀ c ∈ entry.value, c ≠ '<' ∧ c ≠ '>') :=
    List.decidableBAll _ _
  inferInstanceAs (Decidable (∀ _ ∈ _, _))

/-- The attributes that are not for styles. -/
def others (tag : QuotedTag) : List QuotedAttribute :=
  tag.attributes.filter fun entry => !entry.isNamed "style"

/-- The other attributes of a well-formed tag are well-formed. -/
theorem IsWellFormed.others {tag : QuotedTag} (own : tag.IsWellFormed) :
    ∀ entry ∈ tag.others, entry.IsWellFormed :=
  fun entry inside => own.attributes entry (List.mem_filter.1 inside).1

/-- The tag with a style behind its other attributes. -/
def withStyle (tag : QuotedTag) (style : Text) : QuotedTag where
  name := tag.name
  attributes := tag.others ++ [.ofStyle style]
  slash := tag.slash.map fun _ => [' ']

variable {tag : QuotedTag}

/-- There is no sign behind the attributes. -/
theorem sign_not_mem_closing (own : tag.IsWellFormed) : '=' ∉ tag.closing := by
  rw [closing]
  cases slash : tag.slash with
  | none => exact List.not_mem_nil
  | some pad =>
      rw [List.mem_append, not_or]
      exact ⟨Text.not_mem_of_isPadding (own.slash pad slash) (by decide), by decide⟩

/-- The name ends where the attributes begin, or what stands behind them. -/
theorem boundary (own : tag.IsWellFormed) :
    ∀ c ∈ (QuotedAttribute.row tag.attributes ++ (tag.closing ++ ['>'])).head?,
      isWordCharacter c = false := by
  intro c first
  cases entries : tag.attributes with
  | cons entry others =>
      rw [entries] at first
      obtain rfl := Option.some.inj first
      exact isWordCharacter_of_isBlank
        (own.attributes entry (entries ▸ List.mem_cons_self)).gap
  | nil =>
      rw [entries, QuotedAttribute.row_nil, List.nil_append, closing] at first
      cases slash : tag.slash with
      | none =>
          rw [slash] at first
          obtain rfl := Option.some.inj first
          decide
      | some pad =>
          rw [slash] at first
          cases pad with
          | nil =>
              obtain rfl := Option.some.inj first
              decide
          | cons d pad =>
              obtain rfl := Option.some.inj first
              exact isWordCharacter_of_isBlank
                (Text.isPadding_iff.1 (own.slash _ slash) _ List.mem_cons_self)

/-- The name of a tag ends where its attributes begin. -/
theorem takeRun_name (own : tag.IsWellFormed) :
    Text.takeRun Char.isAlphanum
        (tag.name ++ (QuotedAttribute.row tag.attributes ++ (tag.closing ++ ['>']))) =
      (tag.name, QuotedAttribute.row tag.attributes ++ (tag.closing ++ ['>'])) := by
  refine Text.takeRun_append_head own.name fun c first => ?_
  rw [Bool.eq_false_iff]
  intro letter
  have ends := tag.boundary own c first
  rw [isWordCharacter_of_isAlphanum letter] at ends
  exact absurd ends (by simp)

/-- How a tag is closed tells whether it has a slash. -/
theorem slash_eq_of_closing_eq {first second : QuotedTag} (same : first.closing = second.closing) :
    first.slash = second.slash := by
  rw [closing, closing] at same
  cases one : first.slash <;> cases two : second.slash <;> simp_all

/-- A tag can be read in one way only. -/
theorem eq_of_raw_eq {first second : QuotedTag} (one : first.IsWellFormed)
    (two : second.IsWellFormed) (same : first.raw = second.raw) : first = second := by
  have runs := takeRun_name one
  rw [(List.cons.inj same).2, takeRun_name two] at runs
  obtain ⟨name, behind⟩ := Prod.mk.inj runs
  have clear (tag : QuotedTag) (own : tag.IsWellFormed) : '=' ∉ tag.closing ++ ['>'] := by
    rw [List.mem_append, not_or]
    exact ⟨sign_not_mem_closing own, by decide⟩
  obtain ⟨attributes, ends⟩ := QuotedAttribute.row_append_inj two.attributes one.attributes
    (clear second two) (clear first one) behind
  have slash := slash_eq_of_closing_eq (List.append_cancel_right ends)
  obtain ⟨name₁, attributes₁, slash₁⟩ := first
  obtain ⟨name₂, attributes₂, slash₂⟩ := second
  simp only at name attributes slash
  rw [name, attributes, slash]

/-! ### Writing a style -/

/-- The word for styles is plain. -/
theorem style_isPlainWord : QuotedAttribute.isPlainWord "style" = true := by decide

/-- Where no value hides a style, the tag is written with its style behind its other attributes. -/
theorem styled_reading (own : tag.IsWellFormed)
    (plainly : QuotedAttribute.rowHides "style" tag.closing tag.attributes = false)
    (style : Text) : tag.reading.styled style = (tag.withStyle style).raw := by
  have kept : (Attribute.pattern "style").erase tag.reading.attributes =
      QuotedAttribute.row tag.others ++ tag.closing :=
    QuotedAttribute.erase_row style_isPlainWord own.attributes (sign_not_mem_closing own) plainly
  have tight := QuotedAttribute.trimEnd_row own.others
  have last := QuotedAttribute.getLast?_row_ne own.others
  rw [OpenTag.styled, kept, raw, withStyle, closing, closing]
  cases slash : tag.slash with
  | none =>
      rw [List.append_nil, tight, if_neg (by simpa using last)]
      simp [reading, QuotedAttribute.row, QuotedAttribute.raw, QuotedAttribute.ofStyle]
  | some pad =>
      have whole : Text.trimEnd (QuotedAttribute.row tag.others ++ (pad ++ ['/'])) =
          (QuotedAttribute.row tag.others ++ pad) ++ ['/'] := by
        rw [← List.append_assoc]
        exact Text.trimEnd_concat (by decide) _
      have front : Text.trimEnd (QuotedAttribute.row tag.others ++ pad) =
          QuotedAttribute.row tag.others := by
        rw [Text.trimEnd_append_padding (own.slash pad slash), tight]
      simp only [whole]
      rw [if_pos (by simp), List.dropLast_concat, front]
      simp [reading, QuotedAttribute.row, QuotedAttribute.raw, QuotedAttribute.ofStyle]

/-- A style without double quote marks can be given to a well-formed tag. -/
theorem withStyle_isWellFormed (own : tag.IsWellFormed) {style : Text} (quotable : '"' ∉ style) :
    (tag.withStyle style).IsWellFormed where
  nonempty := own.nonempty
  name := own.name
  attributes := by
    intro entry inside
    rcases List.mem_append.1 inside with kept | new
    · exact own.others entry kept
    · rw [List.mem_singleton.1 new]
      exact QuotedAttribute.isWellFormed_ofStyle quotable
  distinct := by
    rw [withStyle, List.map_append, List.nodup_append]
    refine ⟨own.distinct.sublist (List.filter_sublist.map _), by simp, ?_⟩
    rintro name inside other new rfl
    obtain ⟨entry, kept, rfl⟩ := List.mem_map.1 inside
    have unnamed := (List.mem_filter.1 kept).2
    have named := QuotedAttribute.isNamed_ofStyle style
    rw [QuotedAttribute.isNamed] at unnamed named
    rw [List.mem_singleton.1 new, named] at unnamed
    exact absurd unnamed (by simp)
  slash := by
    intro pad inside
    obtain ⟨_, _, rfl⟩ := Option.map_eq_some_iff.1 inside
    decide

/-- Giving a style to a tag leaves its other attributes. -/
theorem others_withStyle (tag : QuotedTag) (style : Text) :
    (tag.withStyle style).others = tag.others := by
  rw [others, withStyle, List.filter_append, others, List.filter_filter]
  simp [QuotedAttribute.isNamed_ofStyle]

/-! ### What is read and written -/

/-- Nothing but values could bring an angle bracket among the attributes. -/
theorem clear_reading (own : tag.IsWellFormed) (clear : tag.IsClear) :
    ∀ c ∈ tag.reading.attributes, c ≠ '<' ∧ c ≠ '>' := by
  intro c inside
  rcases List.mem_append.1 inside with entries | ends
  · obtain ⟨entry, among, here⟩ := List.mem_flatMap.1 entries
    exact (own.attributes entry among).clear_raw (clear entry among) c here
  · rw [closing] at ends
    cases slash : tag.slash with
    | none =>
        rw [slash] at ends
        exact absurd ends List.not_mem_nil
    | some pad =>
        rw [slash] at ends
        rcases List.mem_append.1 ends with blank | mark
        · exact QuotedAttribute.not_bracket_of_isBlank
            (Text.isPadding_iff.1 (own.slash pad slash) c blank)
        · rw [List.mem_singleton.1 mark]
          decide

/-- A well-formed tag that begins with a letter is written as it is read. -/
theorem isWritten (own : tag.IsWellFormed) (clear : tag.IsClear)
    (letter : ∃ c ∈ tag.name.head?, c.isAlpha = true) :
    OpenTag.IsWritten ⟨tag.raw, tag.reading⟩ where
  raw := by simp [raw, reading]
  name_head := letter
  name := own.name
  attributes := clear_reading own clear
  boundary := by
    intro c first
    refine boundary own c ?_
    have first : c ∈ (QuotedAttribute.row tag.attributes ++ tag.closing).head? := first
    rw [← List.append_assoc, List.head?_append, Option.mem_def.1 first]
    rfl

/-- Where there are declarations, some rule selects the tag. -/
theorem exists_selecting {rules : List StyleRule} {opened : OpenTag}
    (nonempty : cascade rules opened ≠ []) :
    ∃ rule ∈ rules, rule.selector.selects opened = true := by
  obtain ⟨rule, applied⟩ := List.exists_mem_of_ne_nil _ nonempty
  have among := (inCascade_cascade rules opened).perm.mem_iff.1 applied
  exact ⟨rule, List.mem_filter.1 among⟩

/-- What stands in a style stands in the declarations of a rule, or of the tag, or between two. -/
theorem mem_of_mem_style {rules : List StyleRule} {opened : OpenTag} {c : Char}
    (inside : c ∈ Text.join declarationSeparator
      (((cascade rules opened).map (·.declarations) ++ [ownDeclarations opened]).filter
        fun t => !t.isEmpty)) :
    c ∈ declarationSeparator ∨ (∃ rule ∈ rules, c ∈ rule.declarations) ∨
      c ∈ ownDeclarations opened := by
  refine (mem_of_mem_intercalate inside).imp_right fun ⟨declarations, row, here⟩ => ?_
  rcases List.mem_append.1 (List.mem_filter.1 row).1 with ruled | tagged
  · obtain ⟨rule, applied, rfl⟩ := List.mem_map.1 ruled
    have among := (inCascade_cascade rules opened).perm.mem_iff.1 applied
    exact .inl ⟨rule, (List.mem_filter.1 among).1, here⟩
  · exact .inr (List.mem_singleton.1 tagged ▸ here)

/-- The edited tag has the other attributes as they were. -/
theorem exists_restyled {rules : List StyleRule}
    (quotable : ∀ rule ∈ rules, '"' ∉ rule.declarations) (own : tag.IsWellFormed)
    (plainly : (∃ rule ∈ rules, rule.selector.selects tag.reading = true) →
      QuotedAttribute.rowHides "style" tag.closing tag.attributes = false) :
    ∃ edited : QuotedTag, edited.IsWellFormed ∧
      edited.raw = restyle rules ⟨tag.raw, tag.reading⟩ ∧ edited.name = tag.name ∧
      edited.others = tag.others ∧
      (tag.IsClear → (∀ rule ∈ rules, ∀ c ∈ rule.declarations, c ≠ '<' ∧ c ≠ '>') →
        edited.IsClear) := by
  rw [restyle]
  split
  · exact ⟨tag, own, rfl, rfl, rfl, fun clear _ => clear⟩
  · rename_i nonempty
    have plainly := plainly (exists_selecting nonempty)
    refine ⟨tag.withStyle _, withStyle_isWellFormed own ?_, (styled_reading own plainly _).symm,
      rfl, others_withStyle tag _, ?_⟩
    · intro inside
      rcases mem_of_mem_style inside with between | ⟨rule, among, here⟩ | here
      · exact absurd between (by decide)
      · exact quotable rule among here
      · exact quote_not_mem_tidyDeclarations _ here
    · intro clear ruled entry among c inside
      rcases List.mem_append.1 among with kept | new
      · exact clear entry (List.mem_filter.1 kept).1 c inside
      · rw [List.mem_singleton.1 new] at inside
        rcases mem_of_mem_style inside with between | ⟨rule, listed, here⟩ | here
        · have apart : ∀ c ∈ declarationSeparator, c ≠ '<' ∧ c ≠ '>' := by
            simp [declarationSeparator]
          exact apart c between
        · exact ruled rule listed c here
        · rcases List.mem_append.1 (tidyDeclarations_subset _ here) with value | mark
          · exact clear_reading own clear c (tag.reading.attribute_subset "style" value)
          · have apart : ∀ c ∈ [';', ' ', '\''], c ≠ '<' ∧ c ≠ '>' := by simp
            exact apart c mark

/-- Classes are read in the first attribute of that name. -/
theorem selects_className_iff (own : tag.IsWellFormed)
    (plainly : QuotedAttribute.leadHides "class" tag.closing tag.attributes = false) (name : Text) :
    (Selector.className name).selects tag.reading = true ↔
      ∃ entry, tag.attributes.find? (·.isNamed "class") = some entry ∧
        name ∈ Text.words entry.value := by
  have read : tag.reading.attribute? "class" = _ :=
    QuotedAttribute.attribute?_row (by decide) own.attributes (sign_not_mem_closing own) plainly _
  rw [Selector.selects, OpenTag.classes, read]
  cases tag.attributes.find? (·.isNamed "class") with
  | none => simp [Text.words, Text.words.wordsOnto]
  | some entry => simp

/-- So are identifiers. -/
theorem selects_identifier_iff (own : tag.IsWellFormed)
    (plainly : QuotedAttribute.leadHides "id" tag.closing tag.attributes = false) (name : Text) :
    (Selector.identifier name).selects tag.reading = true ↔
      ∃ entry, tag.attributes.find? (·.isNamed "id") = some entry ∧ entry.value = name := by
  have read : tag.reading.attribute? "id" = _ :=
    QuotedAttribute.attribute?_row (by decide) own.attributes (sign_not_mem_closing own) plainly _
  rw [Selector.selects, read, beq_iff_eq, Option.map_eq_some_iff]

/-- A clear tag is rewritten by itself, wherever it stands in a text. -/
theorem replace_restyle (own : tag.IsWellFormed) (clear : tag.IsClear)
    (letter : ∃ c ∈ tag.name.head?, c.isAlpha = true) (rules : List StyleRule)
    (before after : Text) :
    OpenTag.pattern.replace (restyle rules) (before ++ (tag.raw ++ after)) =
      OpenTag.pattern.replace (restyle rules) before ++
        (restyle rules ⟨tag.raw, tag.reading⟩ ++
          OpenTag.pattern.replace (restyle rules) after) := by
  have read := (isWritten own clear letter).read_append after
  rw [← Pattern.replace_of_read read]
  exact OpenTag.replace_append_bracket _ _ _

end QuotedTag

/-- If no rule selects a tag, or no value in it hides a style, then with the rules applied it has the
attributes that it had, except for styles, and only these: it can be read in one way only.  If no
value hides a class or an identifier, rules are selected by the first attribute of that name.  In a
text the tag is edited by itself. -/
theorem restyle_quoted {rules : List StyleRule}
    (quotable : ∀ rule ∈ rules, '"' ∉ rule.declarations) {tag : QuotedTag}
    (own : tag.IsWellFormed) :
    (((∃ rule ∈ rules, rule.selector.selects tag.reading = true) →
        QuotedAttribute.rowHides "style" tag.closing tag.attributes = false) →
      ∃ edited : QuotedTag, edited.IsWellFormed ∧
        edited.raw = restyle rules ⟨tag.raw, tag.reading⟩ ∧ edited.name = tag.name ∧
        edited.others = tag.others ∧
        (tag.IsClear → (∀ rule ∈ rules, ∀ c ∈ rule.declarations, c ≠ '<' ∧ c ≠ '>') →
          edited.IsClear) ∧
        ∀ other : QuotedTag, other.IsWellFormed →
          other.raw = restyle rules ⟨tag.raw, tag.reading⟩ → other = edited) ∧
    (QuotedAttribute.leadHides "class" tag.closing tag.attributes = false →
      ∀ name, (Selector.className name).selects tag.reading = true ↔
        ∃ entry, tag.attributes.find? (·.isNamed "class") = some entry ∧
          name ∈ Text.words entry.value) ∧
    (QuotedAttribute.leadHides "id" tag.closing tag.attributes = false →
      ∀ name, (Selector.identifier name).selects tag.reading = true ↔
        ∃ entry, tag.attributes.find? (·.isNamed "id") = some entry ∧ entry.value = name) ∧
    (tag.IsClear → (∃ c ∈ tag.name.head?, c.isAlpha = true) → ∀ before after,
      OpenTag.pattern.replace (restyle rules) (before ++ (tag.raw ++ after)) =
        OpenTag.pattern.replace (restyle rules) before ++
          (restyle rules ⟨tag.raw, tag.reading⟩ ++
            OpenTag.pattern.replace (restyle rules) after)) := by
  refine ⟨fun plainly => ?_, QuotedTag.selects_className_iff own,
    QuotedTag.selects_identifier_iff own, fun clear letter =>
      QuotedTag.replace_restyle own clear letter rules⟩
  obtain ⟨edited, edits, whole, name, others, clear⟩ :=
    QuotedTag.exists_restyled quotable own plainly
  exact ⟨edited, edits, whole, name, others, clear, fun other reads same =>
    QuotedTag.eq_of_raw_eq reads edits (same.trans whole.symm)⟩

/-- A link that closes itself, with a style between its other attributes. -/
def styledLink : QuotedTag where
  name := "a".toList
  attributes := [⟨' ', "data-note".toList, '\'', "in \"style\"".toList⟩,
    ⟨' ', "STYLE".toList, '"', "top: 0;".toList⟩, ⟨'\n', "class".toList, '\'', "b c".toList⟩]
  slash := some " ".toList

/-- The style of a rule for one of its classes comes before the own one of a link, and the rest
stays. -/
theorem restyle_quoted_styledLink :
    styledLink.IsWellFormed ∧ styledLink.IsClear ∧
      QuotedAttribute.rowHides "style" styledLink.closing styledLink.attributes = false ∧
      QuotedAttribute.leadHides "class" styledLink.closing styledLink.attributes = false ∧
      (Selector.className "c".toList).selects styledLink.reading = true ∧
      ∃ edited : QuotedTag, edited.IsWellFormed ∧ edited.others = styledLink.others ∧
        edited.raw = ("<a data-note='in \"style\"'\nclass='b c'".toList ++
          " style=\"color: red; top: 0\" />".toList) := by
  have own : styledLink.IsWellFormed := by decide +kernel
  have styles :
      QuotedAttribute.rowHides "style" styledLink.closing styledLink.attributes = false := by
    decide +kernel
  have classes :
      QuotedAttribute.leadHides "class" styledLink.closing styledLink.attributes = false := by
    decide +kernel
  have quotable : ∀ rule ∈ [StyleRule.mk (.className "c".toList) "color: red".toList],
      '"' ∉ rule.declarations := by
    decide
  obtain ⟨keeps, selects, _, _⟩ := restyle_quoted quotable own
  obtain ⟨edited, edits, whole, _, others, _⟩ := keeps fun _ => styles
  refine ⟨own, by decide +kernel, styles, classes, ?_, edited, edits, others, ?_⟩
  · exact (selects classes _).2 ⟨_, rfl, by decide +kernel⟩
  · rw [whole]
    decide +kernel

/-- A title with the text of a style in it loses this to the style of the tag; a class named in a
title selects rules. -/
theorem hoistStyles_hiddenAttributes :
    hoistStyles ("<style>p \x7b color: red \x7d</style>".toList ++
        "<p title=\"with style='bold' set\">x</p>".toList) =
        "<p title=\"with set\" style=\"color: red; bold\">x</p>".toList ∧
      hoistStyles ("<style>.b \x7b color: red \x7d</style>".toList ++
        "<p title=\"a class='b'\">x</p>".toList) =
        "<p title=\"a class='b'\" style=\"color: red\">x</p>".toList := by
  decide +kernel

end MailTemplate
