/-
Module: MailTemplate.Proofs.Angular
Purpose: Tags between angle brackets, and what taking out the blocks between them can bring about.
Main exports: Pattern.Angular, Pattern.StandsOutside, Pattern.SeenThrough.occurs_of_erase,
  Pattern.SeenThrough.occurs_erase, MarkupBlock.opener_read_iff, MarkupBlock.closer_read_iff,
  MarkupBlock.isSome_read_iff, MarkupBlock.seenThrough_pattern
-/
import MailTemplate.Proofs.HeadWord
import MailTemplate.Proofs.Markup

/-!
Blocks are taken out in one pass, so what stood in front of a block and what stood behind it come
together, and the two may make a tag that neither made alone.  They make none if no block stands
inside a tag: then every tag of the result stood in the text as it was, from its opening bracket to
the one that closes it, and so did every block.
-/

namespace MailTemplate

/-! ### Where a pattern stands -/

namespace Pattern

variable {α β γ : Type} {p : Pattern α} {q : Pattern β}

/-- A block stands at the head of a text if its opener does and its closer stands behind. -/
theorem isSome_read_block {closer : Pattern γ} {t : Text} :
    ((q.block closer).read t).isSome = true ↔
      ∃ opening rest, q.read t = some (opening, rest) ∧ closer.occurs rest = true := by
  simp only [block, occurs]
  cases read : q.read t with
  | none => simp
  | some found =>
      obtain ⟨opening, rest⟩ := found
      cases behind : closer.find? rest <;> simp [behind]

/-! ### Tags between angle brackets -/

/-- Tags go from an angle bracket to the first one that closes, and nothing behind them counts. -/
def Angular (q : Pattern β) : Prop :=
  ∀ (t : Text) (hit : Hit β) (rest : Text), q.read t = some (hit, rest) →
    ∃ inner, t = '<' :: (inner ++ '>' :: rest) ∧ '>' ∉ inner ∧
      ∀ other, q.read ('<' :: (inner ++ '>' :: other)) = some (hit, other)

/-- Tags begin with an opening bracket. -/
def Opens (q : Pattern β) : Prop :=
  ∀ (c : Char) (t : Text), c ≠ '<' → q.read (c :: t) = none

/-- An angular pattern opens with its bracket. -/
theorem Angular.opens (angular : q.Angular) : q.Opens := by
  intro c t other
  cases read : q.read (c :: t) with
  | none => rfl
  | some found =>
      obtain ⟨inner, whole, _⟩ := angular _ _ _ read
      exact absurd (List.cons.inj whole).1 other

/-- A block opens with what its opener opens with. -/
theorem Opens.block (opens : q.Opens) (closer : Pattern γ) : (q.block closer).Opens := by
  intro c t other
  simp [Pattern.block, opens c t other]

/-- No tag begins in a text without an opening bracket. -/
theorem Opens.occurs_append_clear (opens : q.Opens) {s : Text} (clear : '<' ∉ s) (t : Text) :
    q.occurs (s ++ t) = q.occurs t := by
  induction s with
  | nil => rfl
  | cons c s ih =>
      rw [List.mem_cons, not_or] at clear
      rw [List.cons_append, occurs_cons, opens c _ (Ne.symm clear.1), ih clear.2]
      rfl

/-! ### Taking out what stands outside all tags -/

section Erase

variable {p : Pattern α}

/-- Whether no hit begins where a bracket is open; `opened` tells whether one is open in front. -/
def outside (opened : Bool) : List (Token α) → Bool
  | [] => true
  | .plain c :: tokens => outside (c == '<' || (opened && c != '>')) tokens
  | .hit _ :: tokens => !opened && outside false tokens

/-- No tag of the pattern begins between an opening bracket and the next closing one. -/
def StandsOutside (p : Pattern α) (t : Text) : Prop :=
  outside false (p.scan t) = true

instance (p : Pattern α) (t : Text) : Decidable (p.StandsOutside t) :=
  inferInstanceAs (Decidable (_ = true))

/-- A hit stands inside no open tag, and behind it none is open. -/
theorem outside_of_read {t rest : Text} {hit : Hit α} {opened : Bool}
    (read : p.read t = some (hit, rest)) (out : outside opened (p.scan t) = true) :
    opened = false ∧ outside false (p.scan rest) = true := by
  rw [scan_of_read read, outside, Bool.and_eq_true, Bool.not_eq_true'] at out
  exact out

/-- Behind a plain character a tag is open if the character opens one, or does not close the one
that was. -/
theorem outside_of_not_read {c : Char} {t : Text} {opened : Bool}
    (unread : p.read (c :: t) = none) (out : outside opened (p.scan (c :: t)) = true) :
    outside (c == '<' || (opened && c != '>')) (p.scan t) = true := by
  rw [scan_of_not_read unread, outside] at out
  exact out

/-- Where a bracket is open, no tag is taken out at the head. -/
theorem eq_cons_of_erase {c : Char} {t rest : Text} (out : outside true (p.scan t) = true)
    (erased : p.erase t = c :: rest) :
    ∃ behind, t = c :: behind ∧ p.erase behind = rest ∧
      outside (c == '<' || c != '>') (p.scan behind) = true := by
  cases t with
  | nil => exact absurd erased (by simp [erase, replace, scan_nil])
  | cons d t =>
      cases read : p.read (d :: t) with
      | some found => exact absurd (outside_of_read read out).1 (by simp)
      | none =>
          rw [erase_of_not_read read] at erased
          obtain ⟨rfl, rfl⟩ := List.cons.inj erased
          exact ⟨t, rfl, rfl, outside_of_not_read read out⟩

/-- Where a bracket is open, nothing is taken out in front of the one that closes. -/
theorem eq_append_of_erase {inner t rest : Text} (closed : '>' ∉ inner)
    (out : outside true (p.scan t) = true) (erased : p.erase t = inner ++ '>' :: rest) :
    ∃ behind, t = inner ++ '>' :: behind ∧ p.erase behind = rest ∧
      outside false (p.scan behind) = true := by
  induction inner generalizing t with
  | nil => exact eq_cons_of_erase out erased
  | cons c inner ih =>
      rw [List.mem_cons, not_or] at closed
      obtain ⟨t, rfl, erased, out⟩ := eq_cons_of_erase out erased
      have still : (c == '<' || c != '>') = true := by simp [Ne.symm closed.1]
      rw [still] at out
      obtain ⟨behind, rfl, erased, out⟩ := ih closed.2 out erased
      exact ⟨behind, rfl, erased, out⟩

/-- A tag that has not been taken out and begins at the head was there before. -/
theorem Angular.read_of_erase (angular : q.Angular) {c : Char} {t rest : Text} {hit : Hit β}
    {opened : Bool} (unread : p.read (c :: t) = none)
    (out : outside opened (p.scan (c :: t)) = true)
    (read : q.read (c :: p.erase t) = some (hit, rest)) :
    ∃ behind, q.read (c :: t) = some (hit, behind) ∧ p.erase behind = rest ∧
      outside false (p.scan behind) = true := by
  obtain ⟨inner, whole, closed, always⟩ := angular _ _ _ read
  obtain ⟨rfl, erased⟩ := List.cons.inj whole
  obtain ⟨behind, rfl, erased, out⟩ :=
    eq_append_of_erase closed (outside_of_not_read unread out) erased
  exact ⟨behind, always behind, erased, out⟩

/-- What begins at the head when tags of `p` have been taken out behind it began there before. -/
def SeenThrough (p : Pattern α) (q : Pattern β) : Prop :=
  ∀ (c : Char) (t : Text) (opened : Bool), p.read (c :: t) = none →
    outside opened (p.scan (c :: t)) = true → (q.read (c :: p.erase t)).isSome = true →
      (q.read (c :: t)).isSome = true

/-- A tag between brackets that is read once others are taken out was read before. -/
theorem Angular.seenThrough (angular : q.Angular) (p : Pattern α) : p.SeenThrough q := by
  intro c t opened unread out here
  obtain ⟨found, read⟩ := Option.isSome_iff_exists.1 here
  obtain ⟨behind, read, _⟩ := angular.read_of_erase unread out read
  rw [read]
  rfl

/-- Taking tags out brings nothing about. -/
theorem SeenThrough.occurs_of_erase (seen : p.SeenThrough q) {t : Text} {opened : Bool}
    (out : outside opened (p.scan t) = true) (here : q.occurs (p.erase t) = true) :
    q.occurs t = true := by
  induction t using p.scan_induction generalizing opened with
  | nil => exact here
  | plain c t unread ih =>
      rw [erase_of_not_read unread, occurs_cons, Bool.or_eq_true] at here
      rw [occurs_cons, Bool.or_eq_true]
      exact here.imp (seen c t _ unread out) (ih (outside_of_not_read unread out))
  | hit t found rest read ih =>
      rw [erase_of_read read] at here
      rw [← p.raw_append read]
      exact occurs_append (ih (outside_of_read read out).2 here) _

/-- Blocks between angular tags were there before. -/
theorem Angular.seenThrough_block (angular : q.Angular) {closer : Pattern γ}
    (closing : closer.Angular) (p : Pattern α) : p.SeenThrough (q.block closer) := by
  intro c t opened unread out here
  obtain ⟨opening, rest, read, closes⟩ := isSome_read_block.1 here
  obtain ⟨behind, there, rfl, out⟩ := angular.read_of_erase unread out read
  exact isSome_read_block.2
    ⟨opening, behind, there, (closing.seenThrough p).occurs_of_erase out closes⟩

/-- Nothing is left that could be taken out. -/
theorem SeenThrough.occurs_erase (seen : p.SeenThrough p) {t : Text} {opened : Bool}
    (out : outside opened (p.scan t) = true) : p.occurs (p.erase t) = false := by
  induction t using p.scan_induction generalizing opened with
  | nil => rfl
  | plain c t unread ih =>
      have head : (p.read (c :: p.erase t)).isSome = false := by
        rw [Bool.eq_false_iff]
        intro here
        have there := seen c t _ unread out here
        rw [unread] at there
        exact absurd there (by simp)
      rw [erase_of_not_read unread, occurs_cons, head, ih (outside_of_not_read unread out)]
      rfl
  | hit t found rest read ih =>
      rw [erase_of_read read]
      exact ih (outside_of_read read out).2

end Erase

end Pattern

/-! ### Tags of blocks -/

/-- Letters belong to words, in either case. -/
theorem isWordCharacter_of_sameLetter {l c : Char} (letter : (foldLetter l).isAlphanum = true)
    (same : sameLetter l c = true) : isWordCharacter c = true := by
  rw [beq_iff_eq.1 same, foldLetter] at letter
  -- The long s and the Kelvin sign belong to words as the letters do that they stand for.
  split at letter
  · rename_i long
    rw [long]
    decide +kernel
  · split at letter
    · rename_i sign
      rw [sign]
      decide +kernel
    · refine isWordCharacter_of_isAlphanum ?_
      delta Char.toLower at letter
      split at letter
      · rename_i bounds
        have upper : c.isUpper = true := decide_eq_true bounds
        have alpha : c.isAlpha = (c.isUpper || c.isLower) := rfl
        simp [Char.isAlphanum, alpha, upper]
      · exact letter

/-- What begins with no character of a class, or is empty, begins with none when another follows. -/
theorem Text.head?_append_stop {p : Char → Bool} {t : Text} {stop : Char}
    (head : ∀ c ∈ t.head?, p c = false) (stops : p stop = false) (rest : Text) :
    ∀ c ∈ (t ++ stop :: rest).head?, p c = false := by
  cases t with
  | nil => exact fun c first => Option.some.inj first ▸ stops
  | cons d t => exact head

namespace MarkupBlock

/-- A text that spells a name in letters of either case. -/
def Spells (name : String) (word : Text) : Prop :=
  Text.takeLetters? name.toList word = some (word, [])

/-- What spells a name of letters is a word. -/
theorem Spells.isWordCharacter {name : String} {word : Text} (spelled : Spells name word)
    (letters : (name.toList.all fun l => (foldLetter l).isAlphanum) = true) :
    ∀ c ∈ word, isWordCharacter c = true := by
  have accepts : Part.Accepts (.letters name.toList) word := Part.accepts_of_take? spelled
  rw [Part.Accepts] at accepts
  generalize name.toList = ls at accepts letters
  clear spelled
  induction accepts with
  | nil => simp
  | cons same _ ih =>
      rw [List.all_cons, Bool.and_eq_true] at letters
      rw [List.forall_mem_cons]
      exact ⟨isWordCharacter_of_sameLetter letters.1 same, ih letters.2⟩

/-- How an opening tag is written. -/
theorem opener_read_iff {name : String} {t rest : Text} {hit : Hit Unit} :
    (opener name).read t = some (hit, rest) ↔
      ∃ word attributes, Spells name word ∧ '>' ∉ attributes ∧
        (∀ c ∈ (attributes ++ '>' :: rest).head?, isWordCharacter c = false) ∧
        t = '<' :: (word ++ (attributes ++ '>' :: rest)) ∧
        hit = ⟨'<' :: (word ++ (attributes ++ ['>'])), ()⟩ := by
  constructor
  · intro read
    obtain ⟨pieces, whole, rfl⟩ := Shape.take?_of_read read
    obtain ⟨_, _, rfl, behindBracket, rfl⟩ := Shape.take?_word_cons whole
    obtain ⟨word, _, _, spelled, behindName, rfl⟩ := Shape.take?_cons behindBracket
    obtain rfl := Part.take?_append spelled
    obtain ⟨_, _, _, ends, behindBoundary, rfl⟩ := Shape.take?_cons behindName
    obtain ⟨rfl, rfl, boundary⟩ := Part.take?_boundary_eq_some ends
    obtain ⟨attributes, _, _, inner, behindAttributes, rfl⟩ := Shape.take?_cons behindBoundary
    obtain rfl := Part.take?_append inner
    obtain ⟨_, _, rfl, nothing, rfl⟩ := Shape.take?_word_cons behindAttributes
    obtain ⟨rfl, rfl⟩ := Prod.mk.inj (Option.some.inj nothing)
    have unclosed : ∀ c ∈ attributes, (c != '>') = true := Part.accepts_of_take? inner
    have spelled := Text.takeLetters?_append_piece spelled []
    rw [List.append_nil] at spelled
    exact ⟨word, attributes, spelled, fun inside => by simpa using unclosed _ inside, boundary, rfl,
      by simp⟩
  · rintro ⟨word, attributes, spelled, closed, boundary, rfl, rfl⟩
    have spelled : (Part.letters name.toList).take? (word ++ (attributes ++ '>' :: rest)) =
        some (word, attributes ++ '>' :: rest) :=
      Text.takeLetters?_append_piece spelled _
    have ends : (Part.boundary isWordCharacter).take? (attributes ++ '>' :: rest) =
        some ([], attributes ++ '>' :: rest) :=
      Part.take?_boundary boundary
    have inner : (Part.many (· != '>')).take? (attributes ++ '>' :: rest) =
        some (attributes, '>' :: rest) :=
      Part.take?_many (Text.bne_of_not_mem closed) rfl rest
    have bracket : (Part.word ['<']).take? ('<' :: (word ++ (attributes ++ '>' :: rest))) =
        some (['<'], word ++ (attributes ++ '>' :: rest)) :=
      Part.take?_word_append ['<'] _
    have closing : (Part.word ['>']).take? ('>' :: rest) = some (['>'], rest) :=
      Part.take?_word_append ['>'] rest
    simp [opener, Shape.pattern, Shape.take?, bracket, spelled, ends, inner, closing]

/-- How a closing tag is written. -/
theorem closer_read_iff {name : String} {t rest : Text} {hit : Hit Unit} :
    (closer name).read t = some (hit, rest) ↔
      ∃ word pad, Spells name word ∧ Text.isPadding pad = true ∧
        t = '<' :: '/' :: (word ++ (pad ++ '>' :: rest)) ∧
        hit = ⟨'<' :: '/' :: (word ++ (pad ++ ['>'])), ()⟩ := by
  constructor
  · intro read
    obtain ⟨pieces, whole, rfl⟩ := Shape.take?_of_read read
    obtain ⟨_, _, rfl, behindBracket, rfl⟩ := Shape.take?_word_cons whole
    obtain ⟨word, _, _, spelled, behindName, rfl⟩ := Shape.take?_cons behindBracket
    obtain rfl := Part.take?_append spelled
    obtain ⟨pad, _, _, blanks, behindBlanks, rfl⟩ := Shape.take?_cons behindName
    obtain rfl := Part.take?_append blanks
    obtain ⟨_, _, rfl, nothing, rfl⟩ := Shape.take?_word_cons behindBlanks
    obtain ⟨rfl, rfl⟩ := Prod.mk.inj (Option.some.inj nothing)
    have blank : ∀ c ∈ pad, isBlank c = true := Part.accepts_of_take? blanks
    have spelled := Text.takeLetters?_append_piece spelled []
    rw [List.append_nil] at spelled
    exact ⟨word, pad, spelled, Text.isPadding_iff.2 blank, rfl, by simp⟩
  · rintro ⟨word, pad, spelled, blank, rfl, rfl⟩
    have bracket : (Part.word ['<', '/']).take? ('<' :: '/' :: (word ++ (pad ++ '>' :: rest))) =
        some (['<', '/'], word ++ (pad ++ '>' :: rest)) :=
      Part.take?_word_append ['<', '/'] _
    have spelled : (Part.letters name.toList).take? (word ++ (pad ++ '>' :: rest)) =
        some (word, pad ++ '>' :: rest) :=
      Text.takeLetters?_append_piece spelled _
    have blanks : (Part.many isBlank).take? (pad ++ '>' :: rest) = some (pad, '>' :: rest) :=
      Part.take?_many (Text.isPadding_iff.1 blank) (by decide) rest
    have closing : (Part.word ['>']).take? ('>' :: rest) = some (['>'], rest) :=
      Part.take?_word_append ['>'] rest
    simp [closer, Shape.pattern, Shape.take?, bracket, spelled, blanks, closing]

section Tags

variable {name : String} (letters : (name.toList.all fun l => (foldLetter l).isAlphanum) = true)

include letters

/-- A spelled name holds no angle brackets. -/
theorem Spells.not_mem {word : Text} (spelled : Spells name word) : '<' ∉ word ∧ '>' ∉ word := by
  have each := spelled.isWordCharacter letters
  exact ⟨fun inside => absurd (each _ inside) (by decide),
    fun inside => absurd (each _ inside) (by decide)⟩

/-- An opening tag stands between brackets. -/
theorem angular_opener : (opener name).Angular := by
  intro t hit rest read
  obtain ⟨word, attributes, spelled, closed, boundary, rfl, rfl⟩ := opener_read_iff.1 read
  refine ⟨word ++ attributes, by simp, ?_, fun other => ?_⟩
  · rw [List.mem_append, not_or]
    exact ⟨(spelled.not_mem letters).2, closed⟩
  · refine opener_read_iff.2 ⟨word, attributes, spelled, closed, ?_, by simp, rfl⟩
    simpa [List.head?_append] using boundary

/-- A closing tag stands between brackets. -/
theorem angular_closer : (closer name).Angular := by
  intro t hit rest read
  obtain ⟨word, pad, spelled, blank, rfl, rfl⟩ := closer_read_iff.1 read
  refine ⟨'/' :: (word ++ pad), by simp, ?_, fun other => ?_⟩
  · have slash : '>' ≠ '/' := by decide
    rw [List.mem_cons, List.mem_append, not_or, not_or]
    exact ⟨slash, (spelled.not_mem letters).2, Text.not_mem_of_isPadding blank (by decide)⟩
  · exact closer_read_iff.2 ⟨word, pad, spelled, blank, by simp, rfl⟩

/-- A block of markup opens with a bracket. -/
theorem opens_pattern : (MarkupBlock.pattern name).Opens :=
  (angular_opener letters).opens.block _

/-- Blocks that were not there do not come about by taking out what stands outside all tags. -/
theorem seenThrough_pattern {α : Type} (p : Pattern α) :
    p.SeenThrough (MarkupBlock.pattern name) :=
  (angular_opener letters).seenThrough_block (angular_closer letters) p

end Tags

/-- Somewhere behind a closing bracket there is a tag that closes a block. -/
def EndsIn (name : String) (t : Text) : Prop :=
  ∃ front rest, t = front ++ '>' :: rest ∧ (closer name).occurs rest = true

/-- What comes behind takes no closing tag away. -/
theorem EndsIn.append {name : String} {t : Text} (ends : EndsIn name t) (s : Text) :
    EndsIn name (s ++ t) := by
  obtain ⟨front, rest, rfl, closes⟩ := ends
  exact ⟨s ++ front, rest, (List.append_assoc ..).symm, closes⟩

/-- A tag that closes a block occurs. -/
theorem EndsIn.occurs {name : String} {t : Text} (ends : EndsIn name t) :
    (closer name).occurs t = true := by
  obtain ⟨front, rest, rfl, closes⟩ := ends
  have there := Pattern.occurs_append closes (front ++ ['>'])
  rwa [List.append_assoc, List.singleton_append] at there

/-- Then the tag stands behind the first closing bracket. -/
theorem EndsIn.first {name : String} {t : Text} (ends : EndsIn name t) :
    ∃ front rest, t = front ++ '>' :: rest ∧ '>' ∉ front ∧ (closer name).occurs rest = true := by
  obtain ⟨front, rest, rfl, closes⟩ := ends
  induction front with
  | nil => exact ⟨[], rest, rfl, List.not_mem_nil, closes⟩
  | cons c front ih =>
      by_cases bracket : c = '>'
      · subst bracket
        have later : EndsIn name (front ++ '>' :: rest) := ⟨front, rest, rfl, closes⟩
        exact ⟨[], front ++ '>' :: rest, rfl, List.not_mem_nil, later.occurs⟩
      · obtain ⟨before, behind, whole, closed, closes⟩ := ih
        refine ⟨c :: before, behind, by rw [List.cons_append, whole, List.cons_append], ?_, closes⟩
        rw [List.mem_cons, not_or]
        exact ⟨Ne.symm bracket, closed⟩

/-- A block begins where its name stands behind a bracket and its end behind the next that
closes. -/
theorem isSome_read_iff {name : String} {t : Text} :
    ((MarkupBlock.pattern name).read t).isSome = true ↔
      ∃ word behind, Spells name word ∧ t = '<' :: (word ++ behind) ∧
        (∀ c ∈ behind.head?, isWordCharacter c = false) ∧ EndsIn name behind := by
  rw [MarkupBlock.pattern, Pattern.isSome_read_block]
  constructor
  · rintro ⟨opening, rest, read, closes⟩
    obtain ⟨word, attributes, spelled, _, boundary, rfl, _⟩ := opener_read_iff.1 read
    exact ⟨word, _, spelled, rfl, boundary, attributes, rest, rfl, closes⟩
  · rintro ⟨word, behind, spelled, rfl, boundary, ends⟩
    obtain ⟨attributes, rest, rfl, closed, closes⟩ := ends.first
    exact ⟨_, rest, opener_read_iff.2 ⟨word, attributes, spelled, closed, boundary, rfl, rfl⟩,
      closes⟩

end MarkupBlock

end MailTemplate
