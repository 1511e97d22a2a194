/-
Module: MailTemplate.Proofs.ElementName
Purpose: Which tags the rules for element names reach, whatever the names of the tags look like.
Main exports: OpenTag.read_iff, OpenTag.scan_append_bracket, ElementTag, ElementTag.reading?,
  ElementTag.isSelected, ElementTag.replace_restyle, replace_restyle_named
-/
import MailTemplate.Proofs.Angular
import MailTemplate.Proofs.Cascade
import MailTemplate.Proofs.Keyed

/-!
The name of an element reaches up to a blank, a slash or a bracket.  Hoisting reads letters and
digits up to a word boundary instead.  So of a name with a hyphen or a colon in it the front is taken
for the name, and the rest for attributes, while a tag in whose name an underscore or a letter outside
ASCII follows the front is taken for no tag at all.

A tag is read where it stands, whatever is in front of it and behind it, and the rules that reach it
are those for the name that is read.
-/

namespace MailTemplate

/-! ### What ends a word -/

/-- No blank belongs to a word. -/
theorem isWordCharacter_of_isBlank {c : Char} (blank : isBlank c = true) :
    isWordCharacter c = false := by
  have letter : c.isAlphanum = false := by
    rw [Bool.eq_false_iff]
    intro letter
    have solid := isBlank_of_isVariableCharacter (isVariableCharacter_of_isAlphanum letter)
    exact absurd blank (by simp [solid])
  have mark : c ≠ '_' := by
    rintro rfl
    exact absurd blank (by decide)
  have beyond : Text.wordRanges.contains c = false :=
    Text.Ranges.contains_eq_false (by decide +kernel) blank
  simp [isWordCharacter, letter, mark, beyond]

/-! ### Tags in their surroundings -/

/-- Text without a character ends in front of that character. -/
theorem Text.eq_append_of_append_stop {stop : Char} {s t u rest : Text} (clear : stop ∉ u)
    (same : s ++ stop :: t = u ++ rest) : ∃ more, s = u ++ more := by
  rcases List.append_eq_append_iff.1 same with ⟨between, own, behind⟩ | ⟨more, own, _⟩
  · cases between with
    | nil => exact ⟨[], by rw [own, List.append_nil, List.append_nil]⟩
    | cons c between =>
        obtain ⟨rfl, _⟩ := List.cons.inj behind
        exact absurd (own ▸ List.mem_append_right _ List.mem_cons_self) clear
  · exact ⟨more, own⟩

namespace Pattern

variable {α : Type} {p : Pattern α}

/-- Where a pattern is read nowhere in a text, given what stands behind, the scan passes over it. -/
theorem scan_append_unread {s rest : Text}
    (unread : ∀ front c back, s = front ++ c :: back → p.read (c :: (back ++ rest)) = none) :
    p.scan (s ++ rest) = s.map .plain ++ p.scan rest := by
  induction s with
  | nil => rfl
  | cons c s ih =>
      have later : ∀ front d back, s = front ++ d :: back → p.read (d :: (back ++ rest)) = none :=
        fun front d back same => unread (c :: front) d back (by rw [same]; rfl)
      rw [List.cons_append, scan_of_not_read (unread [] c s rfl), ih later]
      rfl

/-- Where the scan passes characters over, replacing keeps them. -/
theorem replace_of_plain {first rest : Text}
    (scan : p.scan (first ++ rest) = first.map .plain ++ p.scan rest) (f : Hit α → Text) :
    p.replace f (first ++ rest) = first ++ p.replace f rest := by
  rw [replace, scan, List.flatMap_append, List.flatMap_map]
  simp [replace]

end Pattern

namespace OpenTag

/-- A tag is read off the head of a text just if it is written there. -/
theorem read_iff {t rest : Text} {hit : Hit OpenTag} :
    pattern.read t = some (hit, rest) ↔ IsWritten hit ∧ t = hit.raw ++ rest := by
  constructor
  · exact fun read => ⟨isWritten_of_read read, (pattern.raw_append read).symm⟩
  · rintro ⟨written, rfl⟩
    obtain ⟨raw, ⟨name, attributes⟩⟩ := hit
    obtain ⟨whole, ⟨c, head, letter⟩, alphanumeric, clear, boundary⟩ := written
    simp only at whole head alphanumeric clear boundary
    subst whole
    obtain ⟨others, rfl⟩ := List.head?_eq_some_iff.1 head
    rw [List.forall_mem_cons] at alphanumeric
    have stops : ∀ d ∈ (attributes ++ '>' :: rest).head?, isWordCharacter d = false :=
      Text.head?_append_stop boundary (by decide) rest
    have run : (Part.many Char.isAlphanum).take? (others ++ (attributes ++ '>' :: rest)) =
        some (others, attributes ++ '>' :: rest) := by
      rw [Part.take?, Text.takeRun_append_head alphanumeric.2 fun d first => ?_]
      rw [Bool.eq_false_iff]
      intro digit
      exact absurd (stops d first) (by simp [isWordCharacter_of_isAlphanum digit])
    have ends : (Part.boundary isWordCharacter).take? (attributes ++ '>' :: rest) =
        some ([], attributes ++ '>' :: rest) :=
      Part.take?_boundary stops
    have inner : (Part.many fun c => c != '<' && c != '>').take? (attributes ++ '>' :: rest) =
        some (attributes, '>' :: rest) :=
      Part.take?_many (fun d inside => by simpa using clear d inside) rfl rest
    have bracket : (Part.word ['<']).take?
        ('<' :: c :: (others ++ (attributes ++ '>' :: rest))) =
          some (['<'], c :: (others ++ (attributes ++ '>' :: rest))) :=
      Part.take?_word_append ['<'] _
    have first : (Part.one Char.isAlpha).take? (c :: (others ++ (attributes ++ '>' :: rest))) =
        some ([c], others ++ (attributes ++ '>' :: rest)) :=
      if_pos letter
    have closing : (Part.word ['>']).take? ('>' :: rest) = some (['>'], rest) :=
      Part.take?_word_append ['>'] rest
    simp [pattern, shape, Shape.pattern, Shape.take?, bracket, first, run, ends, inner, closing]

/-- A tag is read as it is written, whatever comes behind. -/
theorem IsWritten.read_append {hit : Hit OpenTag} (written : IsWritten hit) (rest : Text) :
    pattern.read (hit.raw ++ rest) = some (hit, rest) :=
  read_iff.2 ⟨written, rfl⟩

/-- An open tag begins with its bracket. -/
theorem opens_pattern : pattern.Opens := by
  intro c t other
  cases read : pattern.read (c :: t) with
  | none => rfl
  | some found =>
      obtain ⟨written, whole⟩ := read_iff.1 read
      rw [written.raw] at whole
      exact absurd (List.cons.inj whole).1 other

/-- Behind its bracket, a tag holds no other. -/
theorem IsWritten.bracket_not_mem {hit : Hit OpenTag} (written : IsWritten hit) :
    '<' ∉ hit.value.name ++ (hit.value.attributes ++ ['>']) := by
  intro inside
  rcases List.mem_append.1 inside with name | behind
  · exact absurd (written.name _ name) (by decide)
  · rcases List.mem_append.1 behind with own | closing
    · exact (written.attributes _ own).1 rfl
    · exact absurd closing (by decide)

/-- No tag reaches over an opening bracket, so a text is read in two parts there. -/
theorem scan_append_bracket (s t : Text) :
    pattern.scan (s ++ '<' :: t) = pattern.scan s ++ pattern.scan ('<' :: t) := by
  induction s using pattern.scan_induction with
  | nil => rfl
  | plain c s unread ih =>
      -- A tag read here with more text behind ends in front of the bracket, so it stood here before.
      have still : pattern.read (c :: (s ++ '<' :: t)) = none := by
        cases read : pattern.read (c :: (s ++ '<' :: t)) with
        | none => rfl
        | some found =>
            obtain ⟨written, whole⟩ := read_iff.1 read
            rw [written.raw] at whole
            obtain ⟨rfl, behind⟩ := List.cons.inj whole
            obtain ⟨rest, rfl⟩ := Text.eq_append_of_append_stop written.bracket_not_mem behind
            have here := written.read_append rest
            rw [written.raw, List.cons_append, unread] at here
            exact absurd here (by simp)
      rw [List.cons_append, Pattern.scan_of_not_read still, Pattern.scan_of_not_read unread, ih]
      rfl
  | hit s found rest read ih =>
      obtain ⟨written, rfl⟩ := read_iff.1 read
      rw [List.append_assoc, Pattern.scan_of_read (written.read_append _),
        Pattern.scan_of_read read, ih]
      rfl

/-- A bracket parts what is replaced on both sides of it. -/
theorem replace_append_bracket (f : Hit OpenTag → Text) (s t : Text) :
    pattern.replace f (s ++ '<' :: t) = pattern.replace f s ++ pattern.replace f ('<' :: t) := by
  rw [Pattern.replace, scan_append_bracket, List.flatMap_append]
  rfl

/-- A text without opening brackets stays as it is. -/
theorem replace_append_clear (f : Hit OpenTag → Text) {s : Text} (clear : '<' ∉ s) (t : Text) :
    pattern.replace f (s ++ t) = s ++ pattern.replace f t := by
  refine Pattern.replace_of_plain (Pattern.scan_append_unread fun front c back same => ?_) f
  refine opens_pattern c _ ?_
  rintro rfl
  exact clear (same ▸ by simp)

end OpenTag

/-! ### Names of elements -/

/-- The tag of an element: its name, and what stands between the name and the closing bracket. -/
structure ElementTag where
  name : Text
  attributes : Text
deriving Repr, Inhabited, DecidableEq

namespace ElementTag

/-- Whether a character may stand in the name of an element. -/
def isNameCharacter (c : Char) : Bool :=
  !isBlank c && c != '/' && c != '<' && c != '>'

/-- The characters of a tag. -/
def raw (tag : ElementTag) : Text :=
  '<' :: (tag.name ++ (tag.attributes ++ ['>']))

/-- A name that begins with a letter and goes on as far as it can, and attributes without angle
brackets. -/
structure IsWellFormed (tag : ElementTag) : Prop where
  head : ∃ c ∈ tag.name.head?, c.isAlpha = true
  name : ∀ c ∈ tag.name, isNameCharacter c = true
  gap : ∀ c ∈ tag.attributes.head?, isNameCharacter c = false
  attributes : ∀ c ∈ tag.attributes, c ≠ '<' ∧ c ≠ '>'

instance (tag : ElementTag) : Decidable tag.IsWellFormed :=
  have : Decidable (∃ c ∈ tag.name.head?, c.isAlpha = true) := Option.decidableExistsMem _
  have : Decidable (∀ c ∈ tag.name, isNameCharacter c = true) := List.decidableBAll _ _
  have : Decidable (∀ c ∈ tag.attributes.head?, isNameCharacter c = false) :=
    Option.decidableForallMem _
  have : Decidable (∀ c ∈ tag.attributes, c ≠ '<' ∧ c ≠ '>') := List.decidableBAll _ _
  decidable_of_iff (_ ∧ _ ∧ _ ∧ _)
    ⟨fun own => ⟨own.1, own.2.1, own.2.2.1, own.2.2.2⟩,
      fun own => ⟨own.head, own.name, own.gap, own.attributes⟩⟩

/-- Behind its bracket, a well-formed tag holds no other. -/
theorem IsWellFormed.bracket_not_mem {tag : ElementTag} (own : tag.IsWellFormed) :
    '<' ∉ tag.name ++ (tag.attributes ++ ['>']) := by
  intro inside
  rcases List.mem_append.1 inside with name | behind
  · exact absurd (own.name _ name) (by decide)
  · rcases List.mem_append.1 behind with part | closing
    · exact (own.attributes _ part).1 rfl
    · exact absurd closing (by decide)

/-- The letters and digits that a name begins with. -/
def front (tag : ElementTag) : Text :=
  tag.name.takeWhile Char.isAlphanum

/-- What follows in the name. -/
def back (tag : ElementTag) : Text :=
  tag.name.dropWhile Char.isAlphanum

/-- What a tag is read as: nothing if the front of its name runs on into a word, and otherwise an
element of that name, with the rest of the name among its attributes. -/
def reading? (tag : ElementTag) : Option OpenTag :=
  if tag.back.head?.any isWordCharacter then none
  else some ⟨tag.front, tag.back ++ tag.attributes⟩

variable {tag : ElementTag}

/-- The name is cut in two where its first word ends. -/
theorem front_append_back (tag : ElementTag) : tag.front ++ tag.back = tag.name :=
  List.takeWhile_append_dropWhile

/-- What may not stand in a name belongs to no word. -/
theorem isWordCharacter_of_not_isNameCharacter {c : Char} (other : isNameCharacter c = false) :
    isWordCharacter c = false := by
  simp only [isNameCharacter, Bool.and_eq_false_iff, Bool.not_eq_false', bne_eq_false_iff_eq]
    at other
  rcases other with ((blank | rfl) | rfl) | rfl
  · exact isWordCharacter_of_isBlank blank
  all_goals decide

/-- A tag is read with the front of its name for its name. -/
theorem isWritten_of_reading? (own : tag.IsWellFormed) {reading : OpenTag}
    (read : tag.reading? = some reading) : OpenTag.IsWritten ⟨tag.raw, reading⟩ := by
  rw [reading?] at read
  split at read
  · exact absurd read (by simp)
  · rename_i ends
    obtain rfl := Option.some.inj read
    obtain ⟨c, head, letter⟩ := own.head
    obtain ⟨others, name⟩ := List.head?_eq_some_iff.1 head
    have alphanumeric : c.isAlphanum = true := by simp [Char.isAlphanum, letter]
    refine ⟨?_, ⟨c, ?_, letter⟩, fun d inside => List.mem_takeWhile_imp inside, ?_, ?_⟩
    · rw [raw, ← tag.front_append_back]
      simp only [List.append_assoc]
    · simp [front, name, alphanumeric]
    · intro d inside
      rcases List.mem_append.1 inside with behind | behind
      · have part : d ∈ tag.name := by
          rw [← tag.front_append_back]
          exact List.mem_append_right _ behind
        constructor
        · rintro rfl
          exact absurd (own.name _ part) (by decide)
        · rintro rfl
          exact absurd (own.name _ part) (by decide)
      · exact own.attributes d behind
    · intro d first
      cases behind : tag.back with
      | nil =>
          rw [behind, List.nil_append] at first
          exact isWordCharacter_of_not_isNameCharacter (own.gap d first)
      | cons e rest =>
          rw [behind] at first ends
          obtain rfl := Option.some.inj first
          simpa using ends

/-- Where a tag is written, its name is all there is of letters and digits. -/
theorem takeRun_of_isWritten {hit : Hit OpenTag} (written : OpenTag.IsWritten hit) (rest : Text) :
    Text.takeRun Char.isAlphanum
        (hit.value.name ++ (hit.value.attributes ++ '>' :: rest)) =
      (hit.value.name, hit.value.attributes ++ '>' :: rest) := by
  refine Text.takeRun_append_head written.name fun c first => ?_
  have ends := Text.head?_append_stop written.boundary (by decide) rest c first
  rw [Bool.eq_false_iff]
  intro letter
  rw [isWordCharacter_of_isAlphanum letter] at ends
  exact absurd ends (by simp)

/-- A tag is not read if its word goes on behind letters and digits. -/
theorem reading?_eq_none_iff :
    tag.reading? = none ↔ ∃ c more, tag.back = c :: more ∧ isWordCharacter c = true := by
  rw [reading?]
  cases tag.back with
  | nil => simp
  | cons c more => cases word : isWordCharacter c <;> simp [word]

/-- A tag in whose name a word goes on behind the front is not read. -/
theorem read_eq_none (unread : tag.reading? = none) (rest : Text) :
    OpenTag.pattern.read (tag.raw ++ rest) = none := by
  obtain ⟨c, more, back, word⟩ := reading?_eq_none_iff.1 unread
  cases read : OpenTag.pattern.read (tag.raw ++ rest) with
  | none => rfl
  | some found =>
      obtain ⟨hit, after⟩ := found
      obtain ⟨written, whole⟩ := OpenTag.read_iff.1 read
      have same : tag.front ++ c :: (more ++ (tag.attributes ++ '>' :: rest)) =
          hit.value.name ++ (hit.value.attributes ++ '>' :: after) := by
        rw [written.raw, raw, ← tag.front_append_back, back] at whole
        simpa using whole
      have stop : c.isAlphanum = false := by
        have first := List.head?_dropWhile_not Char.isAlphanum tag.name
        rw [← ElementTag.back, back] at first
        simpa using first
      have front := Text.takeRun_eq (t := tag.front)
        (fun d inside => List.mem_takeWhile_imp inside) stop
        (more ++ (tag.attributes ++ '>' :: rest))
      rw [same, takeRun_of_isWritten written] at front
      have ends := Text.head?_append_stop written.boundary (by decide : isWordCharacter '>' = false)
        after
      rw [(Prod.mk.inj front).2] at ends
      rw [ends c rfl] at word
      exact absurd word (by simp)

end ElementTag

/-! ### Rules for names -/

/-- A rule for all elements of a name, as a selector in a style sheet gives it. -/
def StyleRule.IsNamed (rule : StyleRule) : Prop :=
  ∃ word name, Selector.parse? word = some (.element name) ∧ rule.selector = .element name

/-- The selector of an element is its name in small letters, of letters and digits alone. -/
theorem Selector.eq_of_parse?_element {word name : Text}
    (parsed : parse? word = some (.element name)) :
    name = Text.lowerAscii word ∧ ∀ c ∈ word, c.isAlphanum = true := by
  cases word with
  | nil => exact absurd parsed (by simp [parse?])
  | cons c rest =>
      rw [parse?] at parsed
      split at parsed
      · simp at parsed
      · split at parsed
        · simp at parsed
        · split at parsed
          · rename_i letters
            rw [Bool.and_eq_true, List.all_eq_true] at letters
            have first : c.isAlphanum = true := by simp [Char.isAlphanum, letters.1]
            exact ⟨(Selector.element.inj (Option.some.inj parsed)).symm,
              List.forall_mem_cons.2 ⟨first, letters.2⟩⟩
          · exact absurd parsed (by simp)

/-- Small letters are letters. -/
theorem isAlphanum_toLower (c : Char) : c.toLower.isAlphanum = c.isAlphanum := by
  delta Char.toLower
  split
  · rename_i bounds
    have upper : c.isUpper = true := decide_eq_true bounds
    have range : 65 ≤ c.toNat ∧ c.toNat ≤ 90 := by
      simpa [UInt32.le_iff_toNat_le] using bounds
    have shifted : 97 ≤ (c.toNat + 32) % 4294967296 ∧ (c.toNat + 32) % 4294967296 ≤ 122 := by omega
    have alpha (d : Char) : d.isAlpha = (d.isUpper || d.isLower) := rfl
    have lower (d : Char) : d.isLower = (decide (97 ≤ d.val) && decide (d.val ≤ 122)) := rfl
    simp only [Char.isAlphanum, alpha, upper, Bool.true_or, Bool.or_eq_true]
    exact .inl (.inr (by simpa [lower, UInt32.le_iff_toNat_le] using shifted))
  · rfl

/-- What is a word of letters and digits in lower case is one as it is. -/
theorem isAlphanum_of_lowerAscii_eq {s t : Text} (same : Text.lowerAscii s = Text.lowerAscii t)
    (letters : ∀ c ∈ t, c.isAlphanum = true) : ∀ c ∈ s, c.isAlphanum = true := by
  intro c inside
  have lower : c.toLower ∈ Text.lowerAscii t := same ▸ List.mem_map_of_mem inside
  obtain ⟨d, among, equal⟩ := List.mem_map.1 lower
  rw [← isAlphanum_toLower, ← equal, isAlphanum_toLower]
  exact letters d among

/-- Rules for names apply in the order of the document. -/
theorem cascade_of_isNamed {rules : List StyleRule} (named : ∀ rule ∈ rules, rule.IsNamed)
    (tag : OpenTag) :
    cascade rules tag =
      rules.filter fun rule => rule.selector == .element (Text.lowerAscii tag.name) := by
  have selecting : (rules.filter fun rule => rule.selector.selects tag) =
      rules.filter fun rule => rule.selector == .element (Text.lowerAscii tag.name) := by
    refine List.filter_congr fun rule inside => ?_
    obtain ⟨_, name, _, own⟩ := named rule inside
    rw [own, Selector.selects, Bool.eq_iff_iff, beq_iff_eq, beq_iff_eq, Selector.element.injEq]
  have ranked (rank : Nat) :
      ((rules.filter fun rule => rule.selector == .element (Text.lowerAscii tag.name)).filter
        fun rule => rule.selector.rank == rank) =
          if rank = 0 then
            rules.filter fun rule => rule.selector == .element (Text.lowerAscii tag.name)
          else [] := by
    have zero : ∀ rule ∈ rules.filter fun rule =>
        rule.selector == .element (Text.lowerAscii tag.name), rule.selector.rank = 0 := by
      intro rule inside
      rw [beq_iff_eq.1 (List.mem_filter.1 inside).2]
      rfl
    split
    · rename_i same
      exact List.filter_eq_self.2 fun rule inside => by simp [zero rule inside, same]
    · rename_i other
      exact List.filter_eq_nil_iff.2 fun rule inside => by simp [zero rule inside, Ne.symm other]
  rw [cascade, selecting]
  simp [ranked]

/-- Nothing that does not occur is taken out. -/
theorem Pattern.erase_of_not_occurs {α : Type} {p : Pattern α} {t : Text}
    (absent : p.occurs t = false) : p.erase t = t := by
  induction t with
  | nil => rfl
  | cons c t ih =>
      rw [occurs_cons, Bool.or_eq_false_iff, Option.isSome_eq_false_iff] at absent
      rw [erase_of_not_read (Option.isNone_iff_eq_none.1 absent.1), ih absent.2]

namespace ElementTag

variable {tag : ElementTag}

/-- Whether a rule reaches a tag: the front of its name is read as a name that a rule is for. -/
def isSelected (rules : List StyleRule) (tag : ElementTag) : Bool :=
  tag.reading?.any fun reading =>
    rules.any fun rule => rule.selector == .element (Text.lowerAscii reading.name)

/-- A tag with a style: the declarations of the rules for the front of its name, in the order of the
document, and then its own. -/
def restyled (rules : List StyleRule) (tag : ElementTag) : Text :=
  let reading : OpenTag := ⟨tag.front, tag.back ++ tag.attributes⟩
  let applied := rules.filter fun rule => rule.selector == .element (Text.lowerAscii tag.front)
  let declarations := applied.map (·.declarations) ++ [ownDeclarations reading]
  reading.styled (Text.join declarationSeparator (declarations.filter fun t => !t.isEmpty))

/-- The tag, written where it is read. -/
theorem restyle_reading {rules : List StyleRule} (named : ∀ rule ∈ rules, rule.IsNamed)
    {reading : OpenTag} (read : tag.reading? = some reading) :
    restyle rules ⟨tag.raw, reading⟩ =
      if tag.isSelected rules then tag.restyled rules else tag.raw := by
  have whole : reading = ⟨tag.front, tag.back ++ tag.attributes⟩ := by
    rw [reading?] at read
    split at read
    · exact absurd read (by simp)
    · exact (Option.some.inj read).symm
  have selected : tag.isSelected rules = true ↔ cascade rules reading ≠ [] := by
    rw [isSelected, read, cascade_of_isNamed named, Option.any_some, List.any_eq_true, ne_eq,
      List.filter_eq_nil_iff]
    simp
  rw [restyle]
  split
  · rename_i empty
    rw [if_neg fun selects => selected.1 selects empty]
  · rename_i nonempty
    rw [if_pos (selected.2 nonempty), restyled, cascade_of_isNamed named, whole]

/-- A name of letters and digits is all front. -/
theorem back_eq_nil_iff : tag.back = [] ↔ ∀ c ∈ tag.name, c.isAlphanum = true :=
  List.dropWhile_eq_nil_iff

/-- A name of letters and digits alone is selected by the rules for it. -/
theorem isSelected_of_back_eq_nil (whole : tag.back = []) (rules : List StyleRule) :
    tag.isSelected rules = true ↔
      ∃ rule ∈ rules, rule.selector = .element (Text.lowerAscii tag.name) := by
  have name := tag.front_append_back
  rw [whole, List.append_nil] at name
  simp [isSelected, reading?, whole, name]

/-- A name that a rule is for is one of letters and digits. -/
theorem back_eq_nil_of_rule {rules : List StyleRule} (named : ∀ rule ∈ rules, rule.IsNamed)
    (meant : ∃ rule ∈ rules, rule.selector = .element (Text.lowerAscii tag.name)) :
    tag.back = [] := by
  obtain ⟨rule, inside, selects⟩ := meant
  obtain ⟨word, name, parsed, own⟩ := named rule inside
  obtain ⟨rfl, letters⟩ := Selector.eq_of_parse?_element parsed
  exact back_eq_nil_iff.2
    (isAlphanum_of_lowerAscii_eq (Selector.element.inj (selects.symm.trans own)) letters)

/-- The whole name says which rules reach a tag just if it is all front, or if none is for the
front. -/
theorem selected_by_name_iff {rules : List StyleRule} (named : ∀ rule ∈ rules, rule.IsNamed) :
    (tag.isSelected rules = true ↔
        ∃ rule ∈ rules, rule.selector = .element (Text.lowerAscii tag.name)) ↔
      tag.back = [] ∨ tag.isSelected rules = false := by
  constructor
  · intro law
    rw [or_iff_not_imp_right, Bool.not_eq_false]
    exact fun selected => back_eq_nil_of_rule named (law.1 selected)
  · rintro (whole | unselected)
    · exact isSelected_of_back_eq_nil whole rules
    · refine ⟨fun selected => absurd selected (by simp [unselected]), fun meant => ?_⟩
      exact (isSelected_of_back_eq_nil (back_eq_nil_of_rule named meant) rules).2 meant

/-- Wherever a tag stands in a text, it is rewritten by itself. -/
theorem replace_restyle {rules : List StyleRule} (named : ∀ rule ∈ rules, rule.IsNamed)
    (own : tag.IsWellFormed) (before after : Text) :
    OpenTag.pattern.replace (restyle rules) (before ++ (tag.raw ++ after)) =
      OpenTag.pattern.replace (restyle rules) before ++
        ((if tag.isSelected rules then tag.restyled rules else tag.raw) ++
          OpenTag.pattern.replace (restyle rules) after) := by
  have bracket : tag.raw ++ after =
      '<' :: (tag.name ++ (tag.attributes ++ ['>']) ++ after) := rfl
  rw [bracket, OpenTag.replace_append_bracket, ← bracket]
  congr 1
  cases read : tag.reading? with
  | some reading =>
      have written := isWritten_of_reading? own read
      rw [Pattern.replace_of_read (written.read_append after), restyle_reading named read]
  | none =>
      have unselected : tag.isSelected rules = false := by rw [isSelected, read]; rfl
      have unread := read_eq_none read after
      rw [bracket] at unread
      rw [unselected, bracket, Pattern.replace_of_not_read unread,
        OpenTag.replace_append_clear _ own.bracket_not_mem]
      rfl

end ElementTag

/-- Where rules for names are applied to a text, a tag in it gets a style just if the front of its
name is read as a name and a rule is for that name.  Of the whole name the same holds just if it is
all front, or if no rule is for the front.  This is how a text without scripts is hoisted if all
rules of its style blocks are for names. -/
theorem replace_restyle_named {rules : List StyleRule} (named : ∀ rule ∈ rules, rule.IsNamed)
    {tag : ElementTag} (own : tag.IsWellFormed) (before after : Text) :
    OpenTag.pattern.replace (restyle rules) (before ++ (tag.raw ++ after)) =
        OpenTag.pattern.replace (restyle rules) before ++
          ((if tag.isSelected rules then tag.restyled rules else tag.raw) ++
            OpenTag.pattern.replace (restyle rules) after) ∧
      ((tag.isSelected rules = true ↔
          ∃ rule ∈ rules, rule.selector = .element (Text.lowerAscii tag.name)) ↔
        tag.back = [] ∨ tag.isSelected rules = false) ∧
      ∀ html, scriptBlock.occurs html = false → styleRules html = rules →
        hoistStyles html =
          OpenTag.pattern.replace (restyle rules) (styleBlock.erase html) := by
  refine ⟨ElementTag.replace_restyle named own before after,
    ElementTag.selected_by_name_iff named, fun html scriptless same => ?_⟩
  rw [hoistStyles_eq, Pattern.erase_of_not_occurs scriptless, same]

/-- A page with two rules for names, in either case. -/
def namedPage : Text :=
  "<style>P, b \x7b color: red \x7d</style><a><B class='x'/></a>".toList

/-- The element with a rule for its name is styled, and no other. -/
theorem replace_restyle_named_page :
    (∀ rule ∈ styleRules namedPage, rule.IsNamed) ∧ scriptBlock.occurs namedPage = false ∧
      hoistStyles namedPage = "<a><B class='x' style=\"color: red\" /></a>".toList := by
  have rules : styleRules namedPage =
      [⟨.element "p".toList, "color: red".toList⟩, ⟨.element "b".toList, "color: red".toList⟩] := by
    decide +kernel
  have named : ∀ rule ∈ styleRules namedPage, rule.IsNamed := by
    rw [rules, List.forall_mem_cons, List.forall_mem_singleton]
    exact ⟨⟨"P".toList, _, by decide, rfl⟩, ⟨"b".toList, _, by decide, rfl⟩⟩
  have own : (ElementTag.mk "B".toList " class='x'/".toList).IsWellFormed := by decide
  have scriptless : scriptBlock.occurs namedPage = false := by decide +kernel
  have cut : styleBlock.erase namedPage =
      "<a>".toList ++ ((ElementTag.mk "B".toList " class='x'/".toList).raw ++ "</a>".toList) := by
    decide +kernel
  obtain ⟨placed, _, hoisted⟩ := replace_restyle_named named own "<a>".toList "</a>".toList
  refine ⟨named, scriptless, ?_⟩
  rw [hoisted namedPage scriptless rfl, cut, placed]
  decide +kernel

/-- A rule for paragraphs reaches an element of another name that begins so, but not if the name
goes on with an underscore. -/
theorem hoistStyles_hyphenatedName :
    hoistStyles "<style>p \x7b color: red \x7d</style><p-card>x</p-card>".toList =
        "<p-card style=\"color: red\">x</p-card>".toList ∧
      hoistStyles "<style>p \x7b color: red \x7d</style><p_card>x</p_card>".toList =
        "<p_card>x</p_card>".toList := by
  decide +kernel

end MailTemplate
