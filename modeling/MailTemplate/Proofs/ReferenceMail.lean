/-
Module: MailTemplate.Proofs.ReferenceMail
Purpose: In a template of text and references, validation reports the unknown names, each once.
Main exports: Place.along, ReferenceTag, Passage, missingIssues, Pattern.hitsAt_reads,
  Segment.Refers, Validation.lineNotes_perm, validate_references
-/
import Mathlib.Data.List.Perm.Basic
import MailTemplate.Proofs.LineEnding
import MailTemplate.Proofs.Placement
import MailTemplate.Proofs.Position

/-!
Eight checks look at each line of a template.  Where its directives are references with a quoted
name, all but two of them are silent: such a directive prints nothing, its argument is well-formed,
it begins with a known word, and it has as many opening braces as closing ones.  The two that speak
look for the names, the one for those of components and the other for those of includes and layouts,
so that each unknown name is reported by one of them and once.
-/

namespace MailTemplate

/-! ### Places of the parts of a text -/

namespace Place

variable {α β : Type}

/-- The parts of a row with the places that they begin at, the first at `place`; `raw` gives the
characters of a part. -/
def along (raw : α → Text) (place : Place) : List α → List (Place × α)
  | [] => []
  | part :: parts => (place, part) :: along raw (place.behind (raw part)) parts

/-- Parts behind others begin where these end. -/
theorem along_append (raw : α → Text) (place : Place) (first last : List α) :
    along raw place (first ++ last) =
      along raw place first ++ along raw (place.behind (first.flatMap raw)) last := by
  induction first generalizing place with
  | nil => rfl
  | cons part first ih =>
      rw [List.cons_append, along, ih, along, List.flatMap_cons, behind_append, List.cons_append]

/-- Places depend on how parts are written, not on what they are. -/
theorem along_map (raw : β → Text) (f : α → β) (place : Place) (parts : List α) :
    along raw place (parts.map f) =
      (along (fun part => raw (f part)) place parts).map fun entry => (entry.1, f entry.2) := by
  induction parts generalizing place with
  | nil => rfl
  | cons part parts ih => rw [List.map_cons, along, ih, along, List.map_cons]

theorem along_map_snd (raw : α → Text) (place : Place) (parts : List α) :
    (along raw place parts).map Prod.snd = parts := by
  induction parts generalizing place with
  | nil => rfl
  | cons part parts ih => rw [along, List.map_cons, ih]

theorem mem_of_mem_along {raw : α → Text} {place : Place} {parts : List α} {entry : Place × α}
    (inside : entry ∈ along raw place parts) : entry.2 ∈ parts := by
  rw [← along_map_snd raw place parts]
  exact List.mem_map_of_mem inside

/-- Every part has a place. -/
theorem exists_of_mem (raw : α → Text) (place : Place) {parts : List α} {part : α}
    (inside : part ∈ parts) : ∃ spot, (spot, part) ∈ along raw place parts := by
  rw [← along_map_snd raw place parts] at inside
  obtain ⟨⟨spot, _⟩, here, rfl⟩ := List.mem_map.1 inside
  exact ⟨spot, here⟩

end Place

/-! ### Templates of text and references -/

/-- The word that a reference begins with. -/
def ReferenceKind.word : ReferenceKind → String
  | .component => "component"
  | .layout => "layout"
  | .include => "include"

/-- Whether a character may stand in the name of a reference: no blank, quote mark or brace. -/
def isReferenceCharacter (c : Char) : Bool :=
  Validation.isNameCharacter c && c != '{'

/-- A directive that refers to markup by a quoted name, with spaces for padding. -/
structure ReferenceTag where
  kind : ReferenceKind
  /-- The number of spaces in front of the word. -/
  lead : Nat
  /-- The number of spaces behind the word, but for one that is always there. -/
  gap : Nat
  mark : Char
  name : Text
  /-- The number of spaces behind the name. -/
  trail : Nat
  isQuote_mark : isQuote mark = true
  name_ne_nil : name ≠ []
  named : name.all isReferenceCharacter = true

/-- A row of spaces. -/
def Text.spaces (count : Nat) : Text :=
  List.replicate count ' '

/-- A part of a template: text without braces, or a reference. -/
inductive Passage where
  | plain (t : Text) (clear : t.isBraceFree = true)
  | reference (tag : ReferenceTag)

namespace ReferenceTag

theorem isPadding_spaces (count : Nat) : Text.isPadding (Text.spaces count) = true := by
  rw [Text.isPadding_iff]
  intro c inside
  rw [List.eq_of_mem_replicate inside]
  decide

/-- The names of tags are names as validation reads them. -/
theorem isName (tag : ReferenceTag) : Validation.IsName tag.name := by
  refine ⟨tag.name_ne_nil, fun c inside => ?_⟩
  have own := List.all_eq_true.1 tag.named c inside
  rw [isReferenceCharacter, Bool.and_eq_true] at own
  exact own.1

/-- The directive as a keyword and a name in quote marks. -/
def quoted (tag : ReferenceTag) : QuotedName tag.kind.word where
  lead := Text.spaces tag.lead
  gap := Text.spaces (tag.gap + 1)
  mark := tag.mark
  name := tag.name
  trail := Text.spaces tag.trail
  lead_blank := isPadding_spaces tag.lead
  gap_blank := isPadding_spaces (tag.gap + 1)
  gap_ne_nil := by simp [Text.spaces]
  isQuote_mark := tag.isQuote_mark
  unmarked inside := by
    have own := tag.isName.2 _ inside
    simp [Validation.isNameCharacter, tag.isQuote_mark] at own
  trail_blank := isPadding_spaces tag.trail

/-- What stands between the braces. -/
def body (tag : ReferenceTag) : Text :=
  tag.quoted.body

/-- The characters of the directive. -/
def raw (tag : ReferenceTag) : Text :=
  (Segment.directive tag.body).raw

end ReferenceTag

namespace Passage

/-- The characters of a passage. -/
def raw : Passage → Text
  | .plain t _ => t
  | .reference tag => tag.raw

/-- The issue at a passage that begins at a place, if it is a reference to what is not known. -/
def missing? (known : Names) (place : Place) : Passage → Option Issue
  | .plain _ _ => none
  | .reference tag =>
      if known.contains tag.name then none
      else
        some ⟨.error, (Finding.missingMarkup tag.kind tag.name).message, place.line, place.column,
          tag.raw⟩

end Passage

/-- The issues at the references of a template to what is not known. -/
def missingIssues (known : Names) (passages : List Passage) : List Issue :=
  (Place.start.along Passage.raw passages).filterMap fun (place, passage) =>
    passage.missing? known place

/-! ### Hits on a row of segments -/

namespace Pattern

variable {α : Type} {p : Pattern α}

/-- The tokens of a segment spell it. -/
theorem flatMap_raw_tokensOf (p : Pattern α) (segment : Segment) :
    (p.tokensOf segment).flatMap Token.raw = segment.raw := by
  rw [tokensOf]
  split
  · exact List.flatMap_singleton ..
  · rw [List.flatMap_map]
    exact List.flatMap_singleton' _

/-- The tags on a line of segments that are tags as a whole or hold none. -/
theorem hitsAt_reads {row : Document} (reads : ∀ segment ∈ row, p.Reads segment)
    (plain : '\n' ∉ row.raw) (number : Nat) :
    p.hitsAt row.raw = (Place.along Segment.raw ⟨number, 0⟩ row).filterMap fun entry =>
      (p.valueOn? entry.2).map fun value => (entry.1.column, ⟨entry.2.raw, value⟩) := by
  rw [hitsAt, scan_reads reads]
  clear reads
  generalize 0 = column
  induction row generalizing column with
  | nil => rfl
  | cons segment row ih =>
      rw [Document.raw_cons, List.mem_append, not_or] at plain
      rw [List.flatMap_cons, locate_append, List.filterMap_append, flatMap_raw_tokensOf,
        ih plain.2, Place.along, List.filterMap_cons, Place.behind_of_not_mem plain.1]
      cases value : p.valueOn? segment with
      | none =>
          rw [tokensOf_of_none value]
          refine List.append_left_eq_self.2 (List.filterMap_eq_nil_iff.2 fun entry inside => ?_)
          obtain ⟨first, last, tokens, _⟩ := mem_locate_iff.1 inside
          have own : entry.2 ∈ segment.raw.map Token.plain := tokens ▸ by simp
          obtain ⟨c, _, same⟩ := List.mem_map.1 own
          obtain ⟨place, token⟩ := entry
          obtain rfl : .plain c = token := same
          rfl
      | some found =>
          rw [tokensOf_of_some value]
          rfl

end Pattern

/-! ### The checks on a reference -/

/-- A component with a quoted name is read with the marks around it. -/
theorem QuotedName.read_argument {w : String} (n : QuotedName w) (component : w = "component")
    (closed : '}' ∉ n.body) (rest : Text) :
    Validation.componentWithArgument.read ((Segment.directive n.body).raw ++ rest) =
      some (⟨(Segment.directive n.body).raw, n.mark :: (n.name ++ [n.mark])⟩, rest) := by
  subst component
  exact Validation.read_componentWithArgument n closed rest

namespace ReferenceTag

variable (tag : ReferenceTag)

theorem isBraceFree_body : tag.body.isBraceFree = true := by
  rw [Text.isBraceFree_iff]
  have clear {c : Char} (word : ∀ kind : ReferenceKind, c ∉ kind.word.toList)
      (solid : isBlank c = false) (other : isQuote c = false) (name : c ∉ tag.name) :
      c ∉ tag.body :=
    tag.quoted.not_mem_body (word tag.kind) solid other name
  have own (c : Char) (inside : c ∈ tag.name) : isReferenceCharacter c = true :=
    List.all_eq_true.1 tag.named c inside
  constructor
  · exact clear (by rintro ⟨⟩ <;> decide) (by decide) (by decide) fun inside =>
      absurd (own _ inside) (by decide)
  · exact clear (by rintro ⟨⟩ <;> decide) (by decide) (by decide) fun inside =>
      absurd (own _ inside) (by decide)

theorem not_mem_raw : '\n' ∉ tag.raw := by
  have spaces (count : Nat) : '\n' ∉ Text.spaces count := fun inside =>
    absurd (List.eq_of_mem_replicate inside) (by decide)
  have word : '\n' ∉ tag.kind.word.toList := by
    cases tag.kind <;> decide
  have mark : '\n' ≠ tag.mark := by
    intro same
    exact absurd tag.isQuote_mark (by rw [← same]; decide)
  have name : '\n' ∉ tag.name := fun inside => absurd (tag.isName.2 _ inside) (by decide)
  simp [raw, Segment.raw, Directive.opening, Directive.closing, body, QuotedName.body, quoted,
    spaces, word, mark, name]

/-- The words of references hold no blanks. -/
theorem solid_word (kind : ReferenceKind) :
    Text.isSolidText kind.word.toList = true ∧ kind.word.toList ≠ [] := by
  cases kind <;> decide

/-- What validation reads from the directive as a mention of markup of a kind. -/
theorem valueOf?_mention (kind : ReferenceKind) :
    (Validation.mention kind kind.word).valueOf? tag.body =
      if kind = tag.kind then some (kind, tag.name) else none := by
  have own := solid_word tag.kind
  rw [Pattern.valueOf?, ← List.append_nil (Segment.directive tag.body).raw, body]
  split
  · rename_i same
    rw [same, Validation.read_mention tag.quoted own.1 own.2 tag.isName]
    rfl
  · rename_i different
    have other : kind.word.toList.head? ≠ tag.kind.word.toList.head? := by
      cases kind <;> cases same : tag.kind <;> simp_all [ReferenceKind.word]
    rw [Validation.read_mention_of_ne tag.quoted own.1 own.2 (solid_word kind).2 other]
    rfl

/-- Of a tag, the pattern for components reads components. -/
theorem valueOf?_components : Validation.components.valueOf? tag.body =
    if tag.kind = .component then some (tag.kind, tag.name) else none := by
  have own : Validation.components.valueOf? tag.body =
      if .component = tag.kind then some (.component, tag.name) else none :=
    tag.valueOf?_mention .component
  rw [own]
  cases tag.kind <;> rfl

/-- The pattern for the other references reads the others. -/
theorem valueOf?_references : Validation.references.valueOf? tag.body =
    if tag.kind = .component then none else some (tag.kind, tag.name) := by
  have first : (Validation.mention .include "include").valueOf? tag.body =
      if .include = tag.kind then some (.include, tag.name) else none :=
    tag.valueOf?_mention .include
  have second : (Validation.mention .layout "layout").valueOf? tag.body =
      if .layout = tag.kind then some (.layout, tag.name) else none :=
    tag.valueOf?_mention .layout
  rw [Validation.references, Pattern.valueOf?_orElse, first, second]
  cases tag.kind <;> rfl

/-- Trimmed, a tag begins with its word and ends with its closing mark. -/
theorem trim_body : Text.trim tag.body = tag.kind.word.toList ++ ' ' ::
    (Text.spaces tag.gap ++ tag.mark :: (tag.name ++ [tag.mark])) := by
  obtain ⟨solid, nonempty⟩ := solid_word tag.kind
  have parts : tag.body =
      (Text.spaces tag.lead ++ (tag.kind.word.toList ++ Text.spaces (tag.gap + 1))) ++
        tag.mark :: (tag.name ++ tag.mark :: Text.spaces tag.trail) := by
    simp [body, QuotedName.body, quoted]
  rw [parts]
  refine (tag.quoted.trim_append _).trans ?_
  rw [Text.trimStart_padding_append (isPadding_spaces tag.lead),
    Text.trimStart_word_append solid nonempty, List.append_assoc]
  rfl

/-- The directive prints nothing, as validation sees. -/
theorem isExempt_body : Validation.isExempt (Text.trim tag.body) = true := by
  have words : ∀ kind : ReferenceKind, kind.word.toList ++ [' '] ∈ Validation.exemptBeginnings := by
    rintro ⟨⟩ <;> decide
  rw [Validation.isExempt, Bool.or_eq_true, List.any_eq_true]
  refine .inl ⟨_, words tag.kind, ?_⟩
  rw [Text.startsWith_iff, trim_body]
  exact ⟨Text.spaces tag.gap ++ tag.mark :: (tag.name ++ [tag.mark]), by simp⟩

/-- The directive's argument is a name in quote marks. -/
theorem isQuotedName_of_valueOf? {argument : Text}
    (found : Validation.componentWithArgument.valueOf? tag.body = some argument) :
    Validation.isQuotedName argument = true := by
  have closed := Text.not_mem_of_isBraceFree tag.isBraceFree_body
  have name : tag.name.isUnquoted = true := by
    rw [Text.isUnquoted_iff]
    intro c inside
    have own := tag.isName.2 c inside
    simp only [Validation.isNameCharacter, Bool.and_eq_true, Bool.not_eq_true'] at own
    exact own.1.1
  rw [Pattern.valueOf?, ← List.append_nil (Segment.directive tag.body).raw, body] at found
  by_cases component : tag.kind = .component
  · have word : tag.kind.word = "component" := by rw [component]; rfl
    rw [tag.quoted.read_argument word closed] at found
    obtain rfl : tag.mark :: (tag.name ++ [tag.mark]) = argument := Option.some.inj found
    rw [Validation.isQuotedName_cons, tag.isQuote_mark, name]
    simpa using tag.name_ne_nil
  · have other : "component".toList.head? ≠ tag.kind.word.toList.head? := by
      cases same : tag.kind <;> simp_all [ReferenceKind.word]
    have own := solid_word tag.kind
    have unread := tag.quoted.take?_of_ne own.1 own.2 (by decide : "component".toList ≠ []) other
    simp only [Validation.componentWithArgument, Shape.pattern, Directive.argumentTag,
      unread] at found
    exact absurd found (by simp)

/-- The directive begins with its word. -/
theorem read_leadingWord : ∃ raw behind, Validation.leadingWord.read tag.raw =
    some (⟨raw, tag.kind.word.toList⟩, behind) := by
  obtain ⟨c, word, letters, first, others⟩ : ∃ c word, tag.kind.word.toList = c :: word ∧
      Validation.beginsWord c = true ∧ word.all Validation.continuesWord = true := by
    cases tag.kind with
    | component => exact ⟨'c', "omponent".toList, rfl, by decide, by decide⟩
    | layout => exact ⟨'l', "ayout".toList, rfl, by decide, by decide⟩
    | «include» => exact ⟨'i', "nclude".toList, rfl, by decide, by decide⟩
  have solid : isBlank c = false :=
    Text.isSolidText_iff.1 (solid_word tag.kind).1 c (letters ▸ List.mem_cons_self)
  have lead (t : Text) : Part.blanks.take? (Text.spaces tag.lead ++ c :: t) =
      some (Text.spaces tag.lead, c :: t) :=
    Part.take?_many (Text.isPadding_iff.1 (isPadding_spaces tag.lead)) solid t
  have one (t : Text) : (Part.one Validation.beginsWord).take? (c :: t) = some ([c], t) := by
    simp [Part.take?, first]
  have many (t : Text) : (Part.many Validation.continuesWord).take? (word ++ ' ' :: t) =
      some (word, ' ' :: t) :=
    Part.take?_many (List.all_eq_true.1 others) (by decide) t
  obtain ⟨behind, whole⟩ : ∃ behind, tag.raw =
      '{' :: '{' :: (Text.spaces tag.lead ++ c :: (word ++ ' ' :: behind)) := by
    refine ⟨Text.spaces tag.gap ++ (tag.mark :: (tag.name ++ tag.mark ::
      (Text.spaces tag.trail ++ Directive.closing))), ?_⟩
    simp [raw, Segment.raw, Directive.opening, body, QuotedName.body, quoted, letters,
      Text.spaces, List.replicate_succ]
  refine ⟨[Directive.opening, Text.spaces tag.lead, [c], word].flatten, ' ' :: behind, ?_⟩
  rw [whole, letters]
  simp only [Validation.leadingWord, Shape.pattern, Validation.leadingWordShape, Shape.take?,
    Part.take?_opens, lead, one, many]
  rfl

end ReferenceTag

/-! ### Lines of text and references -/

/-- A segment is text without braces, or a reference. -/
def Segment.Refers : Segment → Prop
  | .text t => t.isBraceFree = true
  | .directive body => ∃ tag : ReferenceTag, tag.body = body

/-- What refers or prints nothing holds no braces inside its own. -/
theorem Segment.Refers.isFlat {segment : Segment} (refers : segment.Refers) :
    segment.isFlat = true := by
  cases segment with
  | text t => exact refers
  | directive body =>
      obtain ⟨tag, rfl⟩ := refers
      exact tag.isBraceFree_body

/-- What two functions pick, one of them nothing wherever the other does, is up to order what both
of them pick. -/
theorem perm_filterMap_of_apart {α β : Type} {f g h : α → Option β} {row : List α}
    (apart : ∀ x ∈ row, f x = h x ∧ g x = none ∨ f x = none ∧ g x = h x) :
    (row.filterMap f ++ row.filterMap g).Perm (row.filterMap h) := by
  induction row with
  | nil => exact .nil
  | cons x row ih =>
      have rest := ih fun y later => apart y (List.mem_cons_of_mem _ later)
      rw [List.filterMap_cons, List.filterMap_cons, List.filterMap_cons]
      rcases apart x List.mem_cons_self with ⟨own, unpicked⟩ | ⟨unpicked, own⟩
      · rw [own, unpicked]
        cases h x with
        | none => exact rest
        | some y => exact rest.cons y
      · rw [own, unpicked]
        cases h x with
        | none => exact rest
        | some y => exact List.perm_middle.trans (rest.cons y)

namespace Validation

/-- References of all kinds. -/
def mentions : Pattern (ReferenceKind × Text) :=
  components.orElse references

/-- What is found about the name in a segment that a pattern reads as a whole. -/
def nameNote? (known : Names) (p : Pattern (ReferenceKind × Text)) (entry : Place × Segment) :
    Option Note :=
  (p.valueOn? entry.2).bind fun value =>
    if known.contains value.2 then none
    else some ⟨.missingMarkup value.1 value.2, entry.1.column, entry.2.raw⟩

/-! ### Braces of flat segments -/

/-- Closing braces are looked for from the first one on. -/
theorem scan_closings_append {first : Text} (clear : '}' ∉ first) (rest : Text) :
    closings.scan (first ++ rest) = first.map .plain ++ closings.scan rest := by
  induction first with
  | nil => rfl
  | cons c first ih =>
      rw [List.mem_cons, not_or] at clear
      have unread (t : Text) : closings.read (c :: t) = none := by
        simp [closings, Shape.pattern, Shape.take?, Part.closes, Part.take?, Directive.closing,
          Text.dropPrefix?, clear.1]
      rw [List.cons_append, Pattern.scan_of_not_read (unread _), ih clear.2]
      rfl

/-- A directive has one pair of closing braces. -/
theorem scan_closings_directive {body : Text} (closed : '}' ∉ body) (rest : Text) :
    closings.scan ((Segment.directive body).raw ++ rest) =
      (Directive.opening ++ body).map .plain ++
        .hit ⟨Directive.closing, ()⟩ :: closings.scan rest := by
  have read : closings.read (Directive.closing ++ rest) =
      some (⟨Directive.closing, ()⟩, rest) := rfl
  have clear : '}' ∉ Directive.opening ++ body := by simpa [Directive.opening] using closed
  have parts : (Segment.directive body).raw ++ rest =
      (Directive.opening ++ body) ++ (Directive.closing ++ rest) := by
    simp [Segment.raw]
  rw [parts, scan_closings_append clear, Pattern.scan_of_read read]

/-- Opening and closing braces are found segment by segment, and as many of the one as of the
other. -/
theorem balanced_of_isFlat {segment : Segment} (flat : segment.isFlat = true) :
    openings.Splits segment.raw ∧ closings.Splits segment.raw ∧
      (openings.hits segment.raw).length = (closings.hits segment.raw).length := by
  have bracketed : openings.Bracketed := Shape.bracketed_pattern
  cases segment with
  | text t =>
      have clear : t.isBraceFree = true := flat
      obtain ⟨opening, closing⟩ := Text.isBraceFree_iff.1 clear
      have scan := scan_closings_append closing []
      rw [List.append_nil, Pattern.scan_nil, List.append_nil] at scan
      refine ⟨bracketed.splits opening, fun rest => ?_, ?_⟩
      · rw [Segment.raw_text, scan_closings_append closing, scan]
      · rw [Segment.raw_text, Pattern.hits, Pattern.hits, bracketed.scan_eq opening, scan]
  | directive body =>
      have clear : body.isBraceFree = true := flat
      have closed := Text.not_mem_of_isBraceFree clear
      have inside : openings.StaysInside body :=
        Shape.staysInside_pattern (Shape.staysInside (by decide) body)
      have read : openings.read (Segment.directive body).raw =
          some (⟨Directive.opening, ()⟩, body ++ Directive.closing) := rfl
      have scan := scan_closings_directive closed []
      rw [List.append_nil, Pattern.scan_nil] at scan
      refine ⟨inside.splits bracketed flat, fun rest => ?_, ?_⟩
      · rw [scan_closings_directive closed, scan, List.append_assoc]
        rfl
      · rw [Pattern.hits, Pattern.hits, Pattern.scan_directive_of_some bracketed clear read, scan]
        simp

/-- On a row of flat segments, braces open as often as they close. -/
theorem length_openings {row : Document} (flat : ∀ segment ∈ row, segment.isFlat = true) :
    (openings.hits row.raw).length = (closings.hits row.raw).length := by
  induction row with
  | nil => rfl
  | cons segment row ih =>
      obtain ⟨opens, closes, same⟩ := balanced_of_isFlat (flat segment List.mem_cons_self)
      have rest := ih fun other later => flat other (List.mem_cons_of_mem _ later)
      rw [Document.raw_cons, opens.hits_append, closes.hits_append, List.length_append,
        List.length_append, same, rest]

/-! ### What is found on a line -/

variable {scope : Scope} {row : Document} (refers : ∀ segment ∈ row, segment.Refers)

include refers

/-- Nothing is printed on the row, so nothing is said about variables. -/
theorem variableNotes_eq_nil (inLoop : Bool) : variableNotes scope inLoop row.raw = [] := by
  rw [variableNotes, List.flatMap_eq_nil_iff]
  rintro ⟨column, hit⟩ inside
  obtain ⟨segment, here, value⟩ := Pattern.exists_of_mem_hits
    (fun segment here => shallow_printed.reads (refers segment here).isFlat)
    (Pattern.mem_hits_of_mem_hitsAt inside)
  cases segment with
  | text t => exact absurd value (by simp)
  | directive body =>
      obtain ⟨tag, rfl⟩ := refers _ here
      have nonempty : tag.body ≠ [] := by
        intro empty
        have exempt := tag.isExempt_body
        rw [empty] at exempt
        exact absurd exempt (by decide)
      have closed := Text.not_mem_of_isBraceFree tag.isBraceFree_body
      have same := Option.some.inj ((valueOf?_printed closed nonempty).symm.trans value)
      dsimp only
      rw [← same, printFindings, if_pos tag.isExempt_body, List.map_nil]

/-- All names are in quote marks, so nothing is said about arguments. -/
theorem argumentNotes_eq_nil : argumentNotes row.raw = [] := by
  rw [argumentNotes, List.filterMap_eq_nil_iff]
  rintro ⟨column, hit⟩ inside
  obtain ⟨segment, here, value⟩ := Pattern.exists_of_mem_hits
    (fun segment here => shallow_componentWithArgument.reads (refers segment here).isFlat)
    (Pattern.mem_hits_of_mem_hitsAt inside)
  cases segment with
  | text t => exact absurd value (by simp)
  | directive body =>
      obtain ⟨tag, rfl⟩ := refers _ here
      simp only [tag.isQuotedName_of_valueOf? value, Bool.true_or, if_true]

/-- All words are known, so nothing is said about words. -/
theorem wordNotes_eq_nil : wordNotes scope row.raw = [] := by
  have bracketed : leadingWord.Bracketed := Shape.bracketed_pattern
  have known : ∀ kind : ReferenceKind, kind.word.toList ∈ knownWords := by
    rintro ⟨⟩ <;> decide
  have inside (body : Text) : leadingWord.StaysInside body :=
    Shape.staysInside_pattern (Shape.staysInside (by decide) body)
  have scan := Pattern.scan_document bracketed (fun segment here => (refers segment here).isFlat)
    fun body _ => inside body
  rw [wordNotes, List.filterMap_eq_nil_iff]
  rintro ⟨column, hit⟩ found
  obtain ⟨first, last, tokens, _⟩ := Pattern.mem_hitsAt_iff.1 found
  have own : Token.hit hit ∈ row.flatMap fun segment => leadingWord.scan segment.raw := by
    rw [← scan, tokens]
    simp
  obtain ⟨segment, here, among⟩ := List.mem_flatMap.1 own
  cases segment with
  | text t =>
      rw [Segment.raw_text, bracketed.scan_eq (Text.isBraceFree_iff.1 (refers _ here)).1] at among
      simp at among
  | directive body =>
      obtain ⟨tag, rfl⟩ := refers _ here
      obtain ⟨raw, behind, read⟩ := tag.read_leadingWord
      rw [Pattern.scan_directive_of_some bracketed tag.isBraceFree_body read] at among
      obtain rfl : hit = ⟨raw, tag.kind.word.toList⟩ := by simpa using among
      simp [known tag.kind]

/-- All braces are paired, so nothing is said about braces. -/
theorem braceNotes_eq_nil : braceNotes row.raw = [] := by
  have same := length_openings fun segment here => (refers segment here).isFlat
  simp only [braceNotes, same, beq_self_eq_true, if_true]

/-- What is said about names is said segment by segment, at the segments' places. -/
theorem nameNotes_eq {p : Pattern (ReferenceKind × Text)} (hp : p.Shallow) (plain : '\n' ∉ row.raw)
    (number : Nat) : nameNotes scope p row.raw =
      (Place.along Segment.raw ⟨number, 0⟩ row).filterMap (nameNote? scope.components p) := by
  rw [nameNotes, Pattern.hitsAt_reads (fun segment here => hp.reads (refers segment here).isFlat)
    plain number, List.filterMap_filterMap]
  refine List.filterMap_congr fun entry _ => ?_
  rw [nameNote?]
  cases p.valueOn? entry.2 <;> rfl

/-- On a line of text and references validation finds the references to what is not known, those to
components and those to other markup apart. -/
theorem lineNotes_perm (plain : '\n' ∉ row.raw) (inLoop : Bool) (number : Nat) :
    (lineNotes scope inLoop row.raw).Perm
      ((Place.along Segment.raw ⟨number, 0⟩ row).filterMap
        (nameNote? scope.components mentions)) := by
  rw [lineNotes, referenceNotes, variableNotes_eq_nil refers, argumentNotes_eq_nil refers,
    wordNotes_eq_nil refers, braceNotes_eq_nil refers, nameNotes_eq refers shallow_components plain
    number, nameNotes_eq refers shallow_references plain number]
  simp only [List.nil_append, List.append_nil]
  refine perm_filterMap_of_apart fun entry inside => ?_
  have own := refers _ (Place.mem_of_mem_along inside)
  obtain ⟨place, segment⟩ := entry
  cases segment with
  | text t => exact .inl ⟨rfl, rfl⟩
  | directive body =>
      obtain ⟨tag, rfl⟩ := own
      simp only [nameNote?, mentions, Pattern.valueOn?, Pattern.valueOf?_orElse,
        tag.valueOf?_components, tag.valueOf?_references]
      cases tag.kind <;> simp

end Validation

/-! ### Lines of a document -/

namespace Document

/-- Lines are made of the segments of their document. -/
theorem refers_of_mem_lines {doc row : Document} (refers : ∀ segment ∈ doc, segment.Refers)
    (here : row ∈ doc.lines) : ∀ segment ∈ row, segment.Refers := by
  intro segment inside
  rcases of_mem_lines here inside with own | ⟨t, c, own, part, rfl⟩
  · exact refers segment own
  · have chosen : [c] ⊆ t := by simpa using part
    exact Text.isBraceFree_of_subset chosen (refers _ own)

/-- Lines hold no line feed. -/
theorem not_mem_of_mem_lines {doc row : Document} (linear : doc.IsLinear) (here : row ∈ doc.lines) :
    '\n' ∉ row.raw := by
  have listed : row.raw ∈ Text.lines doc.raw := lines_raw linear ▸ List.mem_map_of_mem here
  exact Text.not_mem_of_mem_splitOn listed

/-- The return at the end of a line of a document is a text by itself. -/
theorem exists_withoutReturn {doc row : Document} (here : row ∈ doc.lines) :
    ∃ front : Document, Validation.withoutReturn row.raw = front.raw ∧
      (row = front ∨ row = front ++ [.text ['\r']]) := by
  by_cases last : row.raw.getLast? = some '\r'
  · rcases List.eq_nil_or_concat row with rfl | ⟨front, segment, whole⟩
    · exact absurd last (by simp)
    · rw [List.concat_eq_append] at whole
      subst whole
      have inside : segment ∈ front ++ [segment] := by simp
      rw [raw_append, raw_cons, raw_nil, List.append_nil] at last
      rcases of_mem_spelled (mem_spelled_of_mem_lines here inside) with
        ⟨_, c, _, _, rfl⟩ | ⟨body, _, rfl⟩
      · obtain rfl : c = '\r' := by simpa using last
        exact ⟨front, by simp [Validation.withoutReturn_concat], .inr rfl⟩
      · simp [Segment.raw, Directive.closing] at last
  · exact ⟨row, Validation.withoutReturn_of_getLast? last, .inl rfl⟩

end Document

namespace Place

variable {β : Type} {pick : Place × Segment → Option β}
  (texts : ∀ place t, pick (place, .text t) = none)

/-- All parts of a line stand on it. -/
theorem line_of_mem_along {row : Document} (plain : '\n' ∉ row.raw) {place : Place}
    {entry : Place × Segment} (inside : entry ∈ along Segment.raw place row) :
    entry.1.line = place.line := by
  induction row generalizing place with
  | nil => exact absurd inside (by simp [along])
  | cons segment row ih =>
      rw [Document.raw_cons, List.mem_append, not_or] at plain
      rcases List.mem_cons.1 inside with rfl | later
      · rfl
      · rw [behind_of_not_mem plain.1] at later
        have own := ih plain.2 later
        exact own

include texts

/-- What is picked from a document but not from its texts is picked from it when it is spelled
out. -/
theorem filterMap_along_spelled (place : Place) (doc : Document) :
    (along Segment.raw place doc.spelled).filterMap pick =
      (along Segment.raw place doc).filterMap pick := by
  induction doc generalizing place with
  | nil => rfl
  | cons segment doc ih =>
      have parts : Document.spelled (segment :: doc) = segment.spelled ++ Document.spelled doc :=
        List.flatMap_cons
      have own : segment.spelled.flatMap Segment.raw = segment.raw := by
        cases segment <;> simp [Segment.spelled, List.flatMap_map]
      rw [parts, along_append, List.filterMap_append, own, ih, along]
      cases segment with
      | text t =>
          rw [List.filterMap_cons_none (texts place t)]
          refine List.append_left_eq_self.2 (List.filterMap_eq_nil_iff.2 fun entry inside => ?_)
          obtain ⟨spot, part⟩ := entry
          obtain ⟨c, _, rfl⟩ := List.mem_map.1 (mem_of_mem_along inside)
          exact texts spot [c]
      | directive body =>
          rw [Segment.spelled, along, along, ← List.filterMap_append]
          rfl

/-- What is picked from rows with line feeds between them is picked from them line by line. -/
theorem filterMap_along_intercalate {rows : List Document} (plain : ∀ row ∈ rows, '\n' ∉ row.raw)
    (number : Nat) :
    (along Segment.raw ⟨number, 0⟩ ([.text ['\n']].intercalate rows)).filterMap pick =
      (rows.zipIdx number).flatMap fun (row, number) =>
        (along Segment.raw ⟨number, 0⟩ row).filterMap pick := by
  induction rows generalizing number with
  | nil => rfl
  | cons row rows ih =>
      have own := plain row List.mem_cons_self
      have rest := ih (fun other later => plain other (List.mem_cons_of_mem _ later)) (number + 1)
      rw [List.zipIdx_cons, List.flatMap_cons, ← rest]
      cases rows with
      | nil => simp [along]
      | cons next rows =>
          rw [List.intercalate_cons_cons, List.append_assoc, along_append, List.filterMap_append,
            along_append, List.filterMap_append, ← Document.raw, behind_of_not_mem own]
          congr 1
          rw [along, along, List.filterMap_cons_none (texts _ _), List.filterMap_nil,
            List.nil_append]
          rfl

end Place

/-! ### The issues of a template -/

namespace Passage

/-- A passage as a segment. -/
def segment : Passage → Segment
  | .plain t _ => .text t
  | .reference tag => .directive tag.body

theorem raw_segment (passage : Passage) : passage.segment.raw = passage.raw := by
  cases passage <;> rfl

/-- A passage is a tag or text without braces. -/
theorem refers_segment (passage : Passage) : passage.segment.Refers := by
  cases passage with
  | plain t clear => exact clear
  | reference tag => exact ⟨tag, rfl⟩

end Passage

/-- No tag goes over the end of a line. -/
theorem Document.isLinear_of_refers {doc : Document} (refers : ∀ segment ∈ doc, segment.Refers) :
    doc.IsLinear := by
  intro body here
  obtain ⟨tag, rfl⟩ := refers _ here
  intro feed
  exact tag.not_mem_raw (Segment.inner_subset (.directive tag.body) feed)

namespace Validation

/-- The issue at a segment that refers to what is not known. -/
def segmentIssue? (known : Names) (entry : Place × Segment) : Option Issue :=
  (nameNote? known mentions entry).map (Note.issue entry.1.line)

/-- A passage without markup is an issue at its place. -/
theorem segmentIssue?_segment (known : Names) (place : Place) (passage : Passage) :
    segmentIssue? known (place, passage.segment) = passage.missing? known place := by
  cases passage with
  | plain t clear => rfl
  | reference tag =>
      have value : mentions.valueOn? (Passage.reference tag).segment =
          some (tag.kind, tag.name) := by
        change mentions.valueOf? tag.body = _
        rw [mentions, Pattern.valueOf?_orElse, tag.valueOf?_components, tag.valueOf?_references]
        cases tag.kind <;> rfl
      rw [segmentIssue?, nameNote?, value, Option.bind_some, Passage.missing?]
      split <;> rfl

variable {doc : Document} (refers : ∀ segment ∈ doc, segment.Refers)

include refers

/-- What is found on a line of a document, where a return at its end is left out. -/
theorem lineNotes_perm_of_mem_lines (scope : Scope) {row : Document} (here : row ∈ doc.lines)
    (inLoop : Bool) (number : Nat) :
    (lineNotes scope inLoop (withoutReturn row.raw)).Perm
      ((Place.along Segment.raw ⟨number, 0⟩ row).filterMap
        (nameNote? scope.components mentions)) := by
  have own := Document.refers_of_mem_lines refers here
  have plain := Document.not_mem_of_mem_lines (Document.isLinear_of_refers refers) here
  obtain ⟨front, same, rfl | rfl⟩ := Document.exists_withoutReturn here
  · rw [same]
    exact lineNotes_perm own plain inLoop number
  · rw [Document.raw_append, List.mem_append, not_or] at plain
    have within : (lineNotes scope inLoop front.raw).Perm
        ((Place.along Segment.raw ⟨number, 0⟩ front).filterMap
          (nameNote? scope.components mentions)) :=
      lineNotes_perm (fun segment inside => own segment (List.mem_append_left _ inside)) plain.1
        inLoop number
    have silent (place : Place) : (Place.along Segment.raw place [.text ['\r']]).filterMap
        (nameNote? scope.components mentions) = [] := rfl
    rw [same, Place.along_append, List.filterMap_append, silent, List.append_nil]
    exact within

/-- The issues of a document of texts and references are those at its references. -/
theorem validate_document (scope : Scope) :
    (validate scope doc.raw).Perm ((Place.start.along Segment.raw doc).filterMap
      (segmentIssue? scope.components)) := by
  have linear := Document.isLinear_of_refers refers
  have texts (place : Place) (t : Text) :
      segmentIssue? scope.components (place, .text t) = none := rfl
  have plain (row : Document) (here : row ∈ doc.lines) : '\n' ∉ row.raw :=
    Document.not_mem_of_mem_lines linear here
  have whole : [.text ['\n']].intercalate doc.lines = doc.spelled := List.intercalate_splitOn _
  have byLine := Place.filterMap_along_intercalate texts plain 1
  rw [whole, Place.filterMap_along_spelled texts] at byLine
  rw [Place.start, byLine, validate_eq, rows, Document.lines_raw linear, List.map_map,
    List.zipIdx_map, List.flatMap_map]
  refine List.Perm.flatMap_left _ ?_
  rintro ⟨row, number⟩ listed
  have here := List.fst_mem_of_mem_zipIdx listed
  have found := (lineNotes_perm_of_mem_lines refers scope here
    (spanOfLine? (loopSpans doc.raw) number).isSome number).map (Note.issue number)
  rw [List.map_filterMap] at found
  refine found.trans (.of_eq (List.filterMap_congr fun entry inside => ?_))
  rw [segmentIssue?, Place.line_of_mem_along (plain row here) inside]

end Validation

/-- Only a template without issues succeeds. -/
theorem verdict_eq_success_iff {issues : List Issue} : verdict issues = .success ↔ issues = [] := by
  cases issues with
  | nil => simp [verdict]
  | cons issue issues =>
      rw [verdict]
      split <;> simp

/-- Nothing is missing if every name is known. -/
theorem missingIssues_eq_nil_iff {known : Names} {passages : List Passage} :
    missingIssues known passages = [] ↔
      ∀ tag, .reference tag ∈ passages → known.contains tag.name = true := by
  rw [missingIssues, List.filterMap_eq_nil_iff]
  constructor
  · intro missing tag inside
    obtain ⟨place, here⟩ := Place.exists_of_mem Passage.raw Place.start inside
    by_contra unknown
    have own := missing _ here
    simp [Passage.missing?, unknown] at own
  · rintro known ⟨place, passage⟩ inside
    cases passage with
    | plain t clear => rfl
    | reference tag =>
        have own := known tag (Place.mem_of_mem_along inside)
        simp [Passage.missing?, own]

/-- In a template of texts and references each reference to what is not known is reported once and
nothing else is: the issues are, line by line and up to order, those at the references whose names
are not in the catalog, each with the message for its keyword and at the line and the column where
the reference stands.  The template is in order exactly if it refers to nothing that is not
known. -/
theorem validate_references (scope : Scope) (passages : List Passage) :
    (validate scope (passages.flatMap Passage.raw)).Perm
        (missingIssues scope.components passages) ∧
      (validate scope (passages.flatMap Passage.raw)).Pairwise
        (fun issue later => issue.line ≤ later.line) ∧
      (verdict (validate scope (passages.flatMap Passage.raw)) = .success ↔
        ∀ tag, .reference tag ∈ passages → scope.components.contains tag.name = true) := by
  have raw : Document.raw (passages.map Passage.segment) = passages.flatMap Passage.raw := by
    simp only [Document.raw, List.flatMap_map, Passage.raw_segment]
  have refers : ∀ segment ∈ passages.map Passage.segment, segment.Refers := by
    intro segment inside
    obtain ⟨passage, _, rfl⟩ := List.mem_map.1 inside
    exact passage.refers_segment
  have same : (Place.start.along Segment.raw (passages.map Passage.segment)).filterMap
      (Validation.segmentIssue? scope.components) = missingIssues scope.components passages := by
    rw [Place.along_map, List.filterMap_map, missingIssues]
    simp only [Passage.raw_segment]
    exact List.filterMap_congr fun entry _ => Validation.segmentIssue?_segment ..
  have issues := Validation.validate_document refers scope
  rw [raw, same] at issues
  refine ⟨issues, pairwise_validate scope _, ?_⟩
  rw [verdict_eq_success_iff, ← missingIssues_eq_nil_iff]
  constructor
  · intro empty
    rw [empty] at issues
    exact issues.nil_eq.symm
  · intro empty
    rw [empty] at issues
    exact issues.eq_nil

/-- Of two references on the second line, the one to an unknown footer is at its column there. -/
example : missingIssues (.ofList ["card".toList])
    [.plain "Dear all,\n".toList rfl,
      .reference ⟨.component, 0, 0, '"', "card".toList, 0, rfl, by decide, by decide⟩,
      .plain "é ".toList rfl,
      .reference ⟨.include, 1, 0, '\'', "foot".toList, 1, rfl, by decide, by decide⟩] =
    [⟨.error, "Include 'foot' does not exist".toList, 2, 22,
      Directive.opening ++ " include 'foot' ".toList ++ Directive.closing⟩] := by
  decide +kernel

end MailTemplate
