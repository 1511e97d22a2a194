/-
Module: MailTemplate.Proofs.LoopCopy
Purpose: What a copy of a loop body makes of each segment of a document.
Main exports: Pattern.replace_document, IndexedKey.split?, Segment.copy, loopCopy_raw,
  Segment.isTidy, Segment.isTidy_copy
-/
import MailTemplate.Proofs.Grammar

/-!
A copy of a flat loop body is made segment by segment.  A placeholder becomes a text of digits, a
directive whose key ends in a plus sign gets the number in its key, and every other segment stays as
it is.

The number is put in front of the comma, outside any literal, so a copy opens and closes the
literals that its original does.
-/

namespace MailTemplate

/-! ### Replacing in a document -/

namespace Pattern

variable {α : Type}

/-- A text without opening braces is left as it is. -/
theorem Bracketed.replace_eq {p : Pattern α} (hp : p.Bracketed) {t : Text} (clear : '{' ∉ t)
    (f : Hit α → Text) : p.replace f t = t := by
  rw [replace, hp.scan_eq clear, List.flatMap_map]
  exact List.flatMap_singleton' t

/-- A directive with a text in the place of the tag that it begins with. -/
theorem replace_directive {p : Pattern α} (hp : p.Bracketed) {body : Text}
    (flat : body.isBraceFree = true) (f : Hit α → Text) :
    p.replace f (Segment.directive body).raw =
      match p.read (Segment.directive body).raw with
      | some (hit, rest) => f hit ++ rest
      | none => (Segment.directive body).raw := by
  cases read : p.read (Segment.directive body).raw with
  | none =>
      rw [replace, scan_directive_of_none hp flat read, List.flatMap_map]
      exact List.flatMap_singleton' _
  | some found =>
      obtain ⟨hit, rest⟩ := found
      rw [replace, scan_directive_of_some hp flat read, List.flatMap_cons, List.flatMap_map]
      simp only [List.flatMap_singleton']

/-- In a flat document, tags are replaced in each segment by itself. -/
theorem replace_document {p : Pattern α} (hp : p.Bracketed) {f : Hit α → Text}
    (change : Segment → Segment) {doc : Document} (flat : ∀ segment ∈ doc, segment.isFlat = true)
    (inside : ∀ body, .directive body ∈ doc → p.StaysInside body)
    (texts : ∀ t, change (.text t) = .text t)
    (directives : ∀ body, .directive body ∈ doc →
      p.replace f (Segment.directive body).raw = (change (.directive body)).raw) :
    p.replace f doc.raw = Document.raw (doc.map change) := by
  rw [replace, scan_document hp flat inside, List.flatMap_assoc, Document.raw, List.flatMap_map]
  refine List.flatMap_congr fun segment here => ?_
  cases segment with
  | text t =>
      rw [texts]
      exact hp.replace_eq (Text.isBraceFree_iff.1 (flat _ here)).1 f
  | directive body => exact directives body here

end Pattern

/-! ### Numbers -/

theorem Text.isDigit_of_mem_ofNat {n : Nat} {c : Char} (inside : c ∈ Text.ofNat n) :
    c.isDigit = true :=
  Nat.isDigit_of_mem_toDigits (b := 10) (by decide) (by decide) inside

@[simp] theorem Text.isBraceFree_ofNat (n : Nat) : (Text.ofNat n).isBraceFree = true := by
  rw [isBraceFree_iff]
  constructor <;>
  · intro inside
    exact absurd (isDigit_of_mem_ofNat inside) (by decide)

theorem Text.isUnquoted_ofNat (n : Nat) : (Text.ofNat n).isUnquoted = true := by
  rw [isUnquoted_iff]
  intro c inside
  by_contra quote
  have digit := isDigit_of_mem_ofNat inside
  rcases isQuote_iff.1 (by simpa using quote) with rfl | rfl <;> exact absurd digit (by decide)

/-! ### Keys with a plus sign -/

namespace IndexedKey

/-- The shape of the beginning of a directive between its braces, up to the comma. -/
def innerShape : Shape :=
  [.atLeastOne isKeyCharacter, .word ['+'], .blanks, .word [',']]

/-- The key in front of a plus sign and a comma, and what follows the comma. -/
def split? (body : Text) : Option (Text × Text) :=
  (innerShape.take? body).map fun taken => (Text.trim (taken.1.getD 0 []), taken.2)

/-- The body of a directive with the number of a copy in its key. -/
def renumber (index : Nat) (body : Text) : Text :=
  match split? body with
  | some (key, rest) => key ++ '_' :: Text.ofNat (index + 1) ++ ',' :: rest
  | none => body

theorem bracketed : pattern.Bracketed :=
  Shape.bracketed_pattern

/-- An indexed key is read up to the comma, which stands inside the directive. -/
theorem staysInside (body : Text) : pattern.StaysInside body :=
  Shape.staysInside_pattern (Shape.staysInside (by decide) body)

/-- From a directive the shape takes the beginning of the body, up to the comma. -/
theorem take?_shape (body : Text) :
    shape.take? (Segment.directive body).raw =
      (innerShape.take? body).map fun found =>
        (Directive.opening :: found.1, found.2 ++ Directive.closing) := by
  have inside : innerShape.StaysInside body := Shape.staysInside (by decide) body
  have taken := Shape.take?_opens_directive inside []
  rwa [List.append_nil] at taken

theorem replace_directive {body : Text} (flat : body.isBraceFree = true) (index : Nat) :
    pattern.replace (fun hit => numbered index hit.value) (Segment.directive body).raw =
      (Segment.directive (renumber index body)).raw := by
  rw [Pattern.replace_directive bracketed flat]
  simp only [pattern, Shape.pattern]
  rw [take?_shape, renumber, split?]
  cases innerShape.take? body with
  | none => rfl
  | some taken => simp [numbered, Segment.raw, Directive.closing]

/-- What a split body is made of. -/
theorem body_of_split? {body key rest : Text} (split : split? body = some (key, rest)) :
    ∃ front pad : Text, body = front ++ '+' :: (pad ++ ',' :: rest) ∧ key = Text.trim front ∧
      pad.isPadding = true := by
  obtain ⟨⟨pieces, left⟩, taken, same⟩ := Option.map_eq_some_iff.1 split
  simp only [Prod.mk.injEq] at same
  obtain ⟨rfl, rfl⟩ := same
  obtain ⟨front, behindFront, others, first, second, rfl⟩ := Shape.take?_cons taken
  obtain ⟨plus, behindPlus, others, third, fourth, rfl⟩ := Shape.take?_cons second
  obtain ⟨pad, behindPad, others, fifth, sixth, rfl⟩ := Shape.take?_cons fourth
  obtain ⟨comma, behindComma, others, seventh, eighth, rfl⟩ := Shape.take?_cons sixth
  simp only [Shape.take?, Option.some.injEq, Prod.mk.injEq] at eighth
  obtain ⟨-, rfl⟩ := eighth
  have blank : pad.isPadding = true := by
    simp only [Part.blanks, Part.take?, Text.takeRun, Option.some.injEq, Prod.mk.injEq] at fifth
    rw [← fifth.1]
    exact Text.isPadding_takeWhile _
  have word {w t piece after : Text} (found : Part.take? (.word w) t = some (piece, after)) :
      piece = w := by
    obtain ⟨_, _, same⟩ := Option.map_eq_some_iff.1 found
    exact (congrArg Prod.fst same).symm
  refine ⟨front, pad, ?_, rfl, blank⟩
  rw [← Part.take?_append first, ← Part.take?_append third, ← Part.take?_append fifth,
    ← Part.take?_append seventh, word third, word seventh]
  rfl

/-- A key of key characters, a plus sign, padding and a comma are split there. -/
theorem split?_eq {front pad : Text} (nonempty : front ≠ [])
    (key : ∀ c ∈ front, isKeyCharacter c = true) (blank : pad.isPadding = true) (rest : Text) :
    split? (front ++ '+' :: (pad ++ ',' :: rest)) = some (Text.trim front, rest) := by
  have first (t : Text) :
      Part.take? (.atLeastOne isKeyCharacter) (front ++ '+' :: t) = some (front, '+' :: t) :=
    Part.take?_atLeastOne nonempty key (by decide) t
  have second (t : Text) : Part.take? (.word ['+']) ('+' :: t) = some (['+'], t) :=
    Part.take?_word_append ['+'] t
  have third : Part.blanks.take? (pad ++ ',' :: rest) = some (pad, ',' :: rest) :=
    Part.take?_many (Text.isPadding_iff.1 blank) (by decide) rest
  have fourth : Part.take? (.word [',']) (',' :: rest) = some ([','], rest) :=
    Part.take?_word_append [','] rest
  simp only [split?, innerShape, Shape.take?, first, second, third, fourth]
  rfl

/-- A key in front of a comma, without a plus sign, is not split. -/
theorem split?_comma {front : Text} (nonempty : front ≠ [])
    (key : ∀ c ∈ front, isKeyCharacter c = true) (rest : Text) :
    split? (front ++ ',' :: rest) = none := by
  have first : Part.take? (.atLeastOne isKeyCharacter) (front ++ ',' :: rest) =
      some (front, ',' :: rest) :=
    Part.take?_atLeastOne nonempty key (by decide) rest
  simp only [split?, innerShape, Shape.take?, first]
  rfl

/-- Only directives with a comma have a key with a plus sign. -/
theorem renumber_of_not_mem {body : Text} (plain : ',' ∉ body) (index : Nat) :
    renumber index body = body := by
  cases split : split? body with
  | none => simp [renumber, split]
  | some found =>
      obtain ⟨key, rest⟩ := found
      obtain ⟨front, pad, whole, _⟩ := body_of_split? split
      exact absurd (whole ▸ by simp) plain

end IndexedKey

/-! ### Copies of segments -/

namespace Segment

/-- A segment, or the number that it is a placeholder for. -/
def placed (index : Nat) : Segment → Segment
  | .text t => .text t
  | .directive body =>
      match IndexTag.pattern.valueOf? body with
      | some tag => .text (Text.ofNat (tag.number index))
      | none => .directive body

/-- A segment with the number of a copy in its key. -/
def renumbered (index : Nat) : Segment → Segment
  | .text t => .text t
  | .directive body => .directive (IndexedKey.renumber index body)

/-- Copy `index` of a segment of a loop body. -/
def copy (index : Nat) (segment : Segment) : Segment :=
  (segment.placed index).renumbered index

@[simp] theorem copy_text (index : Nat) (t : Text) : (text t).copy index = .text t := rfl

/-- A placeholder becomes the number of the copy. -/
theorem copy_of_placeholder {body : Text} {tag : IndexTag}
    (read : IndexTag.pattern.valueOf? body = some tag) (index : Nat) :
    (directive body).copy index = .text (Text.ofNat (tag.number index)) := by
  simp [copy, placed, renumbered, read]

/-- Any other directive gets the number in its key, if it asks for one. -/
theorem copy_of_not_placeholder {body : Text} (read : IndexTag.pattern.valueOf? body = none)
    (index : Nat) : (directive body).copy index = .directive (IndexedKey.renumber index body) := by
  simp [copy, placed, renumbered, read]

/-- Numbers bring no braces into a segment. -/
theorem isFlat_placed {segment : Segment} (flat : segment.isFlat = true) (index : Nat) :
    (segment.placed index).isFlat = true := by
  cases segment with
  | text t => exact flat
  | directive body =>
      rw [placed]
      split
      · exact Text.isBraceFree_ofNat _
      · exact flat

end Segment

/-- A copy of a flat loop body is made segment by segment. -/
theorem loopCopy_raw {doc : Document} (flat : ∀ segment ∈ doc, segment.isFlat = true)
    (index : Nat) : loopCopy index doc.raw = Document.raw (doc.map (Segment.copy index)) := by
  have placed : IndexTag.pattern.replace (fun hit => Text.ofNat (hit.value.number index)) doc.raw =
      Document.raw (doc.map (Segment.placed index)) := by
    refine Pattern.replace_document IndexTag.bracketed _ flat ?_ (fun _ => rfl) ?_
    · intro body here
      exact (IndexTag.readsWhole (Text.not_mem_of_isBraceFree (flat _ here))).staysInside
    · intro body here
      have clear : body.isBraceFree = true := flat _ here
      rw [Pattern.replace_directive IndexTag.bracketed clear,
        (IndexTag.readsWhole (Text.not_mem_of_isBraceFree clear)).read_eq,
        Segment.placed]
      cases IndexTag.pattern.valueOf? body <;> simp
  have still : ∀ segment ∈ doc.map (Segment.placed index), segment.isFlat = true := by
    intro segment here
    obtain ⟨original, inside, rfl⟩ := List.mem_map.1 here
    exact Segment.isFlat_placed (flat original inside) index
  have renumbered := Pattern.replace_document IndexedKey.bracketed
    (f := fun hit => IndexedKey.numbered index hit.value) (Segment.renumbered index) still
    (fun body _ => IndexedKey.staysInside body) (fun _ => rfl)
    (fun body here => IndexedKey.replace_directive (still _ here) index)
  rw [loopCopy, placed, renumbered, List.map_map]
  rfl

/-! ### Tidy segments -/

/-- What surrounds the core of a text up to a comma changes nothing about the literals, if it has no
quote marks. -/
theorem quoteBehind_around {lead behind : Text} (blank : lead.isPadding = true)
    (unquoted : behind.isUnquoted = true) (core rest : Text) :
    quoteBehind none '{' (lead ++ core ++ (behind ++ ',' :: rest)) =
      quoteBehind (quoteBehind none '{' core) ',' rest := by
  have outside : ∀ q ∈ (none : Option Char), isQuote q = true := by simp
  have start : lead.getLastD '{' ≠ '\\' := by
    intro slash
    rw [List.getLastD_eq_getLast?] at slash
    cases last : lead.getLast? with
    | none => simp [last] at slash
    | some c =>
        have blankLast := Text.isPadding_iff.1 blank c (List.mem_of_getLast? last)
        rw [last] at slash
        rw [show c = '\\' from slash] at blankLast
        exact absurd blankLast (by decide)
  have comma : Text.isUnquoted (behind ++ [',']) = true := by
    rw [Text.isUnquoted, List.all_append, Bool.and_eq_true]
    exact ⟨unquoted, by decide⟩
  have regroup : lead ++ core ++ (behind ++ ',' :: rest) =
      lead ++ (core ++ (behind ++ [','] ++ rest)) := by
    simp
  rw [regroup, quoteBehind_append,
    quoteBehind_unquoted outside (Text.isUnquoted_of_isPadding blank), quoteBehind_append,
    quoteBehind_previous start (by decide : '{' ≠ '\\') none core, quoteBehind_append,
    quoteBehind_unquoted (isQuote_of_quoteBehind outside '{' core) comma, List.getLastD_concat]

/-- Numbering a key touches no literal. -/
theorem IndexedKey.closesQuotes_renumber (index : Nat) (body : Text) :
    Directive.closesQuotes (renumber index body) = Directive.closesQuotes body := by
  cases split : split? body with
  | none => simp [renumber, split]
  | some found =>
      obtain ⟨key, rest⟩ := found
      obtain ⟨front, pad, whole, trimmed, blank⟩ := body_of_split? split
      obtain ⟨trail, padding, ends⟩ := Text.trim_append_padding_eq front
      have before : body =
          front.takeWhile isBlank ++ key ++ (trail ++ '+' :: pad ++ ',' :: rest) := by
        conv => lhs; rw [whole, ← Text.takeWhile_append_trimStart front, ← ends, ← trimmed]
        simp
      have after : renumber index body =
          [] ++ key ++ ('_' :: Text.ofNat (index + 1) ++ ',' :: rest) := by
        simp [renumber, split]
      have plus : Text.isUnquoted (trail ++ '+' :: pad) = true := by
        rw [Text.isUnquoted, List.all_append, List.all_cons, Bool.and_eq_true, Bool.and_eq_true]
        exact ⟨Text.isUnquoted_of_isPadding padding, by decide, Text.isUnquoted_of_isPadding blank⟩
      have number : Text.isUnquoted ('_' :: Text.ofNat (index + 1)) = true := by
        rw [Text.isUnquoted, List.all_cons, Bool.and_eq_true]
        exact ⟨by decide, Text.isUnquoted_ofNat _⟩
      rw [Directive.closesQuotes, Directive.closesQuotes, after,
        quoteBehind_around (by decide) number]
      conv => rhs; rw [before, quoteBehind_around (Text.isPadding_takeWhile front) plus]

/-- Nor does it bring braces. -/
theorem IndexedKey.isBraceFree_renumber {body : Text} (flat : body.isBraceFree = true)
    (index : Nat) : (renumber index body).isBraceFree = true := by
  cases split : split? body with
  | none => simpa [renumber, split] using flat
  | some found =>
      obtain ⟨key, rest⟩ := found
      obtain ⟨front, pad, rfl, rfl, _⟩ := body_of_split? split
      simp only [Text.isBraceFree_append, Text.isBraceFree_cons, Bool.and_eq_true] at flat
      have key : (Text.trim front).isBraceFree = true :=
        Text.isBraceFree_of_subset (Text.trim_subset front) flat.1
      simp [renumber, split, key, flat.2.2.2.2]

namespace Segment

/-- Whether a segment is flat and closes every literal that it opens. -/
def isTidy : Segment → Bool
  | .text t => t.isBraceFree
  | .directive body => body.isBraceFree && Directive.closesQuotes body

theorem isFlat_of_isTidy {segment : Segment} (tidy : segment.isTidy = true) :
    segment.isFlat = true := by
  cases segment with
  | text t => exact tidy
  | directive body => exact (Bool.and_eq_true _ _ ▸ tidy).1

/-- Copies of flat segments are flat. -/
theorem isFlat_copy {segment : Segment} (flat : segment.isFlat = true) (index : Nat) :
    (segment.copy index).isFlat = true := by
  have placed := isFlat_placed flat index
  rw [copy]
  generalize segment.placed index = there at placed
  cases there with
  | text t => exact placed
  | directive body => exact IndexedKey.isBraceFree_renumber placed index

/-- A copy of a tidy segment is tidy. -/
theorem isTidy_copy {segment : Segment} (tidy : segment.isTidy = true) (index : Nat) :
    (segment.copy index).isTidy = true := by
  cases segment with
  | text t => exact tidy
  | directive body =>
      cases read : IndexTag.pattern.valueOf? body with
      | some tag =>
          rw [copy_of_placeholder read]
          exact Text.isBraceFree_ofNat _
      | none =>
          rw [isTidy, Bool.and_eq_true] at tidy
          rw [copy_of_not_placeholder read, isTidy, Bool.and_eq_true,
            IndexedKey.closesQuotes_renumber]
          exact ⟨IndexedKey.isBraceFree_renumber tidy.1 index, tidy.2⟩

end Segment

end MailTemplate
