/-
Module: MailTemplate.Proofs.Tag
Purpose: Shapes between the braces of a directive.
Main exports: Text.takeRun_eq_iff, Text.splitFirst_eq_some_iff, Part.avoidsClosing, Part.Accepts,
  Shape.take?_sameHead, Shape.accepts_of_take?, Shape.StaysInside, Shape.takeAll?,
  Shape.readsWhole_pattern, Shape.staysInside_pattern, Directive.readsWhole_wordPattern
-/
import Mathlib.Data.List.TakeWhile
import MailTemplate.Proofs.Document

/-!
The shape of a whole directive is two braces, an inner shape, and two braces.  If the inner shape
stops at the closing braces, and none stands in the body, the pattern reads the directive as a
whole: it depends on the inner shape taking all of the body, and on nothing behind the directive.
-/

namespace MailTemplate

/-- A run ends where its class does, so what stands behind makes no difference. -/
theorem Text.takeRun_append_stop {p : Char → Bool} {stop : Char} (h : p stop = false)
    (t rest : Text) :
    takeRun p (t ++ stop :: rest) = ((takeRun p t).1, (takeRun p t).2 ++ stop :: rest) := by
  induction t with
  | nil => simp [takeRun, h]
  | cons c t ih =>
      simp only [takeRun, Prod.mk.injEq] at ih
      by_cases hc : p c = true
      · simp [takeRun, hc, ih]
      · simp [takeRun, hc]

/-- A run of characters of the class ends at the first character outside it, or with the text. -/
theorem Text.takeRun_append_head {p : Char → Bool} {s t : Text} (all : ∀ c ∈ s, p c = true)
    (stop : ∀ c ∈ t.head?, p c = false) : takeRun p (s ++ t) = (s, t) := by
  have behind : t.takeWhile p = [] ∧ t.dropWhile p = t := by
    cases t with
    | nil => exact ⟨rfl, rfl⟩
    | cons c t => simp [stop c rfl]
  rw [takeRun, List.takeWhile_append_of_pos all, List.dropWhile_append_of_pos all, behind.1,
    behind.2, List.append_nil]

/-- A run takes all characters of its class. -/
theorem Text.takeRun_eq {p : Char → Bool} {stop : Char} {t : Text} (all : ∀ c ∈ t, p c = true)
    (h : p stop = false) (rest : Text) : takeRun p (t ++ stop :: rest) = (t, stop :: rest) :=
  takeRun_append_head all fun _ first => Option.some.inj first ▸ h

/-- A run is the longest beginning of a text in the class. -/
theorem Text.takeRun_eq_iff {p : Char → Bool} {t piece rest : Text} :
    takeRun p t = (piece, rest) ↔
      t = piece ++ rest ∧ (∀ c ∈ piece, p c = true) ∧ ∀ c ∈ rest.head?, p c = false := by
  constructor
  · intro taken
    obtain ⟨rfl, rfl⟩ := Prod.mk.inj taken
    refine ⟨(takeRun_append p t).symm, fun c inside => takeRun_all inside, fun c first => ?_⟩
    have stop := List.head?_dropWhile_not p t
    rw [Option.mem_def.1 first] at stop
    simpa using stop
  · rintro ⟨rfl, all, stop⟩
    exact takeRun_append_head all stop

/-- A run of all characters takes the whole text. -/
theorem Text.takeRun_of_all {p : Char → Bool} {t : Text} (all : ∀ c ∈ t, p c = true) :
    takeRun p t = (t, []) :=
  takeRun_eq_iff.2 ⟨(List.append_nil t).symm, all, by simp⟩

/-- Characters of a text are other than one that is not in it. -/
theorem Text.bne_of_not_mem {stop : Char} {t : Text} (clear : stop ∉ t) :
    ∀ c ∈ t, (c != stop) = true := by
  intro c inside
  simpa using fun same : c = stop => clear (same ▸ inside)

/-- A text is cut at the first of the characters. -/
theorem Text.splitFirst_eq_some_iff {sep : Char} {t before after : Text} :
    splitFirst sep t = some (before, after) ↔ t = before ++ sep :: after ∧ sep ∉ before := by
  constructor
  · intro split
    unfold splitFirst at split
    split at split
    · exact absurd split (by simp)
    · rename_i front c rest run
      obtain ⟨rfl, rfl⟩ := Prod.mk.inj (Option.some.inj split)
      obtain ⟨whole, all, stop⟩ := takeRun_eq_iff.1 run
      obtain rfl : c = sep := by simpa using stop c rfl
      exact ⟨whole, fun inside => by simpa using all c inside⟩
  · rintro ⟨rfl, clear⟩
    rw [splitFirst, takeRun_eq (bne_of_not_mem clear) (by simp)]

/-- A text starts with its prefixes. -/
theorem Text.startsWith_iff {word t : Text} : startsWith word t = true ↔ word <+: t := by
  rw [startsWith, Option.isSome_iff_exists]
  constructor
  · rintro ⟨rest, dropped⟩
    exact ⟨rest, (eq_append_of_dropPrefix? dropped).symm⟩
  · rintro ⟨rest, rfl⟩
    exact ⟨rest, dropPrefix?_append word rest⟩

/-- A word is not read across a character that it does not hold. -/
theorem Text.dropPrefix?_append_stop {word : Text} {stop : Char} (h : stop ∉ word) (t rest : Text) :
    dropPrefix? word (t ++ stop :: rest) = (dropPrefix? word t).map (· ++ stop :: rest) := by
  induction word generalizing t with
  | nil => rfl
  | cons w word ih =>
      rw [List.mem_cons, not_or] at h
      cases t with
      | nil => simp [dropPrefix?, Ne.symm h.1]
      | cons c t =>
          simp only [List.cons_append, dropPrefix?]
          split
          · exact ih h.2 t
          · rfl

namespace Part

@[simp] theorem take?_word_append (w rest : Text) :
    take? (.word w) (w ++ rest) = some (w, rest) := by
  rw [take?, Text.dropPrefix?_append]
  rfl

/-- Two braces are taken as an opening. -/
theorem take?_opens (rest : Text) :
    Part.opens.take? ('{' :: '{' :: rest) = some (Directive.opening, rest) :=
  rfl

/-- Any number of characters is taken, up to one outside the class. -/
theorem take?_many {p : Char → Bool} {stop : Char} {t : Text} (all : ∀ c ∈ t, p c = true)
    (h : p stop = false) (rest : Text) :
    take? (.many p) (t ++ stop :: rest) = some (t, stop :: rest) := by
  rw [take?, Text.takeRun_eq all h]

/-- So is any number but none. -/
theorem take?_atLeastOne {p : Char → Bool} {stop : Char} {t : Text} (nonempty : t ≠ [])
    (all : ∀ c ∈ t, p c = true) (h : p stop = false) (rest : Text) :
    take? (.atLeastOne p) (t ++ stop :: rest) = some (t, stop :: rest) := by
  rw [take?, Text.takeRun_eq all h]
  cases t with
  | nil => exact absurd rfl nonempty
  | cons c t => rfl

/-- Up to the end of a text without closing braces there is nothing to stop at. -/
theorem take?_bodyRun {t : Text} (clear : '}' ∉ t) : Part.bodyRun.take? t = some (t, []) := by
  rw [bodyRun, take?, Text.takeRun_of_all (Text.bne_of_not_mem clear)]

/-- Whether a part never takes a closing brace. -/
def avoidsClosing : Part → Bool
  | .word w => !w.contains '}'
  | .letters _ => false
  | .one p => !p '}'
  | .many p => !p '}'
  | .atLeastOne p => !p '}'
  | .boundary _ => false

/-- A part that avoids closing braces does not see beyond them. -/
theorem take?_append_closing {part : Part} (avoids : part.avoidsClosing = true) (t rest : Text) :
    part.take? (t ++ '}' :: rest) =
      (part.take? t).map fun taken => (taken.1, taken.2 ++ '}' :: rest) := by
  cases part with
  | word w =>
      have clear : '}' ∉ w := by simpa [avoidsClosing] using avoids
      simp only [take?]
      rw [Text.dropPrefix?_append_stop clear, Option.map_map, Option.map_map]
      rfl
  | letters w => simp [avoidsClosing] at avoids
  | one p =>
      have stops : p '}' = false := by simpa [avoidsClosing] using avoids
      cases t with
      | nil => simp [take?, stops]
      | cons c t => by_cases hc : p c <;> simp [take?, hc]
  | many p =>
      have stops : p '}' = false := by simpa [avoidsClosing] using avoids
      simp only [take?]
      rw [Text.takeRun_append_stop stops]
      rfl
  | atLeastOne p =>
      have stops : p '}' = false := by simpa [avoidsClosing] using avoids
      simp only [take?]
      rw [Text.takeRun_append_stop stops]
      cases taken : Text.takeRun p t with
      | mk piece after => cases piece <;> rfl
  | boundary p => simp [avoidsClosing] at avoids

end Part

/-- The pieces that a part can take. -/
def Part.Accepts : Part → Text → Prop
  | .word w, t => t = w
  | .letters w, t => List.Forall₂ (fun l c => sameLetter l c = true) w t
  | .one p, t => ∃ c, t = [c] ∧ p c = true
  | .many p, t => ∀ c ∈ t, p c = true
  | .atLeastOne p, t => t ≠ [] ∧ ∀ c ∈ t, p c = true
  | .boundary _, t => t = []

namespace Part

theorem accepts_of_take? {part : Part} {t piece rest : Text}
    (taken : part.take? t = some (piece, rest)) : part.Accepts piece := by
  cases part with
  | word w =>
      obtain ⟨_, _, same⟩ := Option.map_eq_some_iff.1 taken
      exact (Prod.mk.inj same).1.symm
  | letters w =>
      rw [take?] at taken
      induction w generalizing t piece with
      | nil =>
          rw [Text.takeLetters?, Option.some.injEq, Prod.mk.injEq] at taken
          rw [← taken.1]
          exact .nil
      | cons l w ih =>
          cases t with
          | nil => simp [Text.takeLetters?] at taken
          | cons c t =>
              rw [Text.takeLetters?] at taken
              split at taken
              · rename_i same
                obtain ⟨⟨others, after⟩, inner, whole⟩ := Option.map_eq_some_iff.1 taken
                obtain ⟨rfl, rfl⟩ := Prod.mk.inj whole
                exact .cons same (ih inner)
              · exact absurd taken (by simp)
  | one p =>
      cases t with
      | nil => simp [take?] at taken
      | cons c t =>
          by_cases hc : p c
          · rw [take?, if_pos hc, Option.some.injEq, Prod.mk.injEq] at taken
            exact ⟨c, taken.1.symm, hc⟩
          · simp [take?, hc] at taken
  | many p =>
      rw [take?, Option.some.injEq] at taken
      intro c inside
      exact Text.takeRun_all (t := t) (by rw [taken]; exact inside)
  | atLeastOne p =>
      refine ⟨take?_ne_nil taken rfl, ?_⟩
      simp only [take?] at taken
      split at taken
      · exact absurd taken (by simp)
      · rw [Option.some.injEq] at taken
        intro c inside
        exact Text.takeRun_all (t := t) (by rw [taken]; exact inside)
  | boundary p =>
      cases t with
      | nil =>
          rw [take?, Option.some.injEq, Prod.mk.injEq] at taken
          exact taken.1.symm
      | cons c t => by_cases hc : p c <;> simp_all [take?, Accepts]

/-- Whether a part never takes a character. -/
def avoids (stop : Char) : Part → Bool
  | .word w => !w.contains stop
  | .letters _ => false
  | .one p => !p stop
  | .many p => !p stop
  | .atLeastOne p => !p stop
  | .boundary _ => false

theorem avoids_closing : avoids '}' = avoidsClosing := by
  funext part
  cases part <;> rfl

/-- A part that avoids a character accepts no piece with it. -/
theorem Accepts.not_mem {part : Part} {piece : Text} (accepts : part.Accepts piece) {stop : Char}
    (avoided : part.avoids stop = true) : stop ∉ piece := by
  intro inside
  cases part with
  | word w =>
      obtain rfl : piece = w := accepts
      simp [avoids, inside] at avoided
  | letters w => simp [avoids] at avoided
  | one p =>
      obtain ⟨c, rfl, own⟩ := accepts
      obtain rfl := List.mem_singleton.1 inside
      simp [avoids, own] at avoided
  | many p => simp [avoids, accepts _ inside] at avoided
  | atLeastOne p => simp [avoids, accepts.2 _ inside] at avoided
  | boundary p => simp [avoids] at avoided

end Part

/-! ### How far a shape looks -/

namespace Text

/-- How a run ends depends on the next character alone. -/
theorem takeRun_sameHead {p : Char → Bool} {t piece rest other : Text}
    (taken : takeRun p t = (piece, rest)) (head : other.head? = rest.head?) :
    takeRun p (piece ++ other) = (piece, other) := by
  obtain ⟨_, all, stop⟩ := takeRun_eq_iff.1 taken
  exact takeRun_append_head all (head ▸ stop)

/-- Letters are taken whatever comes behind. -/
theorem takeLetters?_append_piece {w t piece rest : Text}
    (taken : takeLetters? w t = some (piece, rest)) (other : Text) :
    takeLetters? w (piece ++ other) = some (piece, other) := by
  induction w generalizing t piece with
  | nil =>
      rw [takeLetters?, Option.some.injEq, Prod.mk.injEq] at taken
      rw [← taken.1]
      rfl
  | cons l w ih =>
      cases t with
      | nil => simp [takeLetters?] at taken
      | cons c t =>
          rw [takeLetters?] at taken
          split at taken
          · rename_i same
            obtain ⟨⟨others, after⟩, inner, whole⟩ := Option.map_eq_some_iff.1 taken
            obtain ⟨rfl, rfl⟩ := Prod.mk.inj whole
            rw [List.cons_append, takeLetters?, if_pos same, ih inner]
            rfl
          · exact absurd taken (by simp)

end Text

/-- A part looks at no more than the first character behind its piece. -/
theorem Part.take?_sameHead {part : Part} {t piece rest other : Text}
    (taken : part.take? t = some (piece, rest)) (head : other.head? = rest.head?) :
    part.take? (piece ++ other) = some (piece, other) := by
  cases part with
  | word w =>
      obtain ⟨_, _, same⟩ := Option.map_eq_some_iff.1 taken
      obtain ⟨rfl, _⟩ := Prod.mk.inj same
      exact take?_word_append w other
  | letters w => exact Text.takeLetters?_append_piece taken other
  | one p =>
      cases t with
      | nil => simp [take?] at taken
      | cons c t =>
          by_cases own : p c
          · rw [take?, if_pos own, Option.some.injEq, Prod.mk.injEq] at taken
            rw [← taken.1, List.singleton_append, take?, if_pos own]
          · simp [take?, own] at taken
  | many p =>
      rw [take?, Option.some.injEq] at taken
      rw [take?, Text.takeRun_sameHead taken head]
  | atLeastOne p =>
      have solid := take?_ne_nil taken rfl
      simp only [take?] at taken ⊢
      split at taken
      · exact absurd taken (by simp)
      · rw [Text.takeRun_sameHead (Option.some.inj taken) head]
        cases piece with
        | nil => exact absurd rfl solid
        | cons c piece => rfl
  | boundary p =>
      obtain rfl : piece = [] := accepts_of_take? taken
      obtain rfl : rest = t := take?_append taken
      cases other with
      | nil => rfl
      | cons c other =>
          obtain ⟨behind, rfl⟩ : ∃ behind, rest = c :: behind := List.head?_eq_some_iff.1 head.symm
          by_cases own : p c
          · simp [take?, own] at taken
          · simp [take?, own]

namespace Shape

/-- A shape looks at no more than the first character behind its pieces. -/
theorem take?_sameHead {shape : Shape} {t rest other : Text} {pieces : List Text}
    (taken : shape.take? t = some (pieces, rest)) (head : other.head? = rest.head?) :
    shape.take? (pieces.flatten ++ other) = some (pieces, other) := by
  induction shape generalizing t pieces with
  | nil =>
      rw [take?, Option.some.injEq, Prod.mk.injEq] at taken
      rw [← taken.1]
      rfl
  | cons part shape ih =>
      obtain ⟨piece, middle, others, first, second, rfl⟩ := take?_cons taken
      have same : (others.flatten ++ other).head? = middle.head? := by
        rw [← take?_flatten second, List.head?_append, List.head?_append, head]
      rw [List.flatten_cons, List.append_assoc, take?, Part.take?_sameHead first same]
      simp only [ih second]

end Shape

/-! ### Shapes inside a directive -/

namespace Shape

/-- The pieces that a shape takes are pieces that its parts can take. -/
theorem accepts_of_take? {shape : Shape} {t rest : Text} {pieces : List Text}
    (taken : shape.take? t = some (pieces, rest)) : List.Forall₂ Part.Accepts shape pieces := by
  induction shape generalizing t pieces with
  | nil =>
      rw [take?, Option.some.injEq, Prod.mk.injEq] at taken
      rw [← taken.1]
      exact .nil
  | cons part shape ih =>
      obtain ⟨piece, middle, others, first, second, rfl⟩ := take?_cons taken
      exact .cons (Part.accepts_of_take? first) (ih second)

/-- What all parts avoid is in no piece. -/
theorem not_mem_of_take? {shape : Shape} {stop : Char} (avoided : shape.all (·.avoids stop) = true)
    {t rest : Text} {pieces : List Text} (taken : shape.take? t = some (pieces, rest)) :
    stop ∉ pieces.flatten := by
  have accepts := accepts_of_take? taken
  clear taken
  induction accepts with
  | nil => simp
  | cons first _ ih =>
      rw [List.all_cons, Bool.and_eq_true] at avoided
      rw [List.flatten_cons, List.mem_append, not_or]
      exact ⟨first.not_mem avoided.1, ih avoided.2⟩

/-- Two shapes in a row take one after the other. -/
theorem take?_append (first second : Shape) (t : Text) :
    take? (first ++ second) t =
      (take? first t).bind fun one => (take? second one.2).map fun two =>
        (one.1 ++ two.1, two.2) := by
  induction first generalizing t with
  | nil => simp [take?]
  | cons part first ih =>
      simp only [List.cons_append, take?]
      cases part.take? t with
      | none => rfl
      | some taken =>
          simp only [ih]
          cases take? first taken.2 with
          | none => rfl
          | some one =>
              simp only [Option.bind_some]
              cases take? second one.2 <;> rfl

/-- In a body, a shape takes the same whether or not the directive is closed behind it. -/
def StaysInside (shape : Shape) (body : Text) : Prop :=
  ∀ rest, shape.take? (body ++ '}' :: rest) =
    (shape.take? body).map fun taken => (taken.1, taken.2 ++ '}' :: rest)

/-- A shape that avoids closing braces looks at nothing behind a directive. -/
theorem staysInside {shape : Shape} (avoids : shape.all Part.avoidsClosing = true) (body : Text) :
    shape.StaysInside body := by
  intro rest
  induction shape generalizing body with
  | nil => rfl
  | cons part shape ih =>
      rw [List.all_cons, Bool.and_eq_true] at avoids
      simp only [take?]
      rw [Part.take?_append_closing avoids.1]
      cases part.take? body with
      | none => rfl
      | some taken =>
          simp only [Option.map_some]
          rw [ih avoids.2 taken.2]
          cases take? shape taken.2 <;> rfl

/-- A shape stays inside if each of two parts does, the second on what the first leaves. -/
theorem StaysInside.append {first second : Shape} {body : Text} (one : first.StaysInside body)
    (two : ∀ taken rest, first.take? body = some (taken, rest) → second.StaysInside rest) :
    Shape.StaysInside (first ++ second) body := by
  intro rest
  rw [take?_append, take?_append, one]
  cases found : first.take? body with
  | none => rfl
  | some taken =>
      simp only [Option.map_some, Option.bind_some]
      rw [two taken.1 taken.2 found rest]
      cases second.take? taken.2 <;> rfl

/-- The pieces that a shape takes from a text, if these are all of it. -/
def takeAll? (shape : Shape) (t : Text) : Option (List Text) :=
  match shape.take? t with
  | some (pieces, []) => some pieces
  | _ => none

/-- A shape takes a text whole if it leaves nothing. -/
theorem takeAll?_eq_some_iff {shape : Shape} {t : Text} {pieces : List Text} :
    shape.takeAll? t = some pieces ↔ shape.take? t = some (pieces, []) := by
  unfold takeAll?
  split
  · rename_i found taken
    rw [taken]
    simp
  · rename_i other
    constructor
    · intro impossible
      exact absurd impossible (by simp)
    · intro taken
      exact absurd taken (other pieces)

/-- What all parts avoid is not in the text that they take. -/
theorem not_mem_of_takeAll? {shape : Shape} {stop : Char}
    (avoided : shape.all (·.avoids stop) = true) {t : Text} {pieces : List Text}
    (all : shape.takeAll? t = some pieces) : stop ∉ t := by
  have taken := takeAll?_eq_some_iff.1 all
  have whole := take?_flatten taken
  rw [List.append_nil] at whole
  exact whole ▸ not_mem_of_take? avoided taken

variable {α : Type}

/-- The shape of a directive with an inner shape takes the directive exactly if that takes the
body. -/
theorem take?_directive {shape : Shape} {body : Text} (inside : shape.StaysInside body)
    (closed : '}' ∉ body) (rest : Text) :
    take? (.opens :: (shape ++ [.closes])) ((Segment.directive body).raw ++ rest) =
      (shape.takeAll? body).map fun pieces =>
        (Directive.opening :: (pieces ++ [Directive.closing]), rest) := by
  rw [Segment.raw_directive_append, take?, Part.take?_opens]
  simp only
  rw [take?_append, inside]
  cases taken : shape.take? body with
  | none => simp [takeAll?, taken]
  | some found =>
      obtain ⟨pieces, left⟩ := found
      cases left with
      | nil =>
          rw [takeAll?_eq_some_iff.2 taken]
          rfl
      | cons c left =>
          -- What is left of the body holds no closing brace, so the directive cannot end there.
          have here : c ∈ body := by
            rw [← take?_flatten taken]
            exact List.mem_append_right _ List.mem_cons_self
          have other : c ≠ '}' := fun same => closed (same ▸ here)
          have closed : Part.closes.take? (c :: left ++ '}' :: '}' :: rest) = none := by
            simp [Part.closes, Part.take?, Directive.closing, Text.dropPrefix?, Ne.symm other]
          simp only [Option.map_some, Option.bind_some, take?, closed]
          simp [takeAll?, taken]

/-- A pattern for whole directives depends on the body alone. -/
theorem readsWhole_pattern (shape : Shape) {value : List Text → α}
    {solid : isSolid (.opens :: (shape ++ [.closes])) = true} {body : Text}
    (inside : shape.StaysInside body) (closed : '}' ∉ body) :
    (Shape.pattern (.opens :: (shape ++ [.closes])) value solid).ReadsWhole body ∧
      (Shape.pattern (.opens :: (shape ++ [.closes])) value solid).valueOf? body =
        (shape.takeAll? body).map fun pieces =>
          value (Directive.opening :: (pieces ++ [Directive.closing])) := by
  refine Pattern.readsWhole_of_read fun rest => ?_
  simp only [pattern]
  rw [take?_directive inside closed]
  cases all : shape.takeAll? body with
  | none => rfl
  | some pieces =>
      have whole := take?_flatten (takeAll?_eq_some_iff.1 all)
      rw [List.append_nil] at whole
      simp only [Option.map_some]
      rw [List.flatten_cons, List.flatten_append, whole]
      simp [Segment.raw]

/-- The shape of the beginning of a directive takes from the directive what its inner shape takes
from the body. -/
theorem take?_opens_directive {shape : Shape} {body : Text} (inside : shape.StaysInside body)
    (rest : Text) :
    take? (.opens :: shape) ((Segment.directive body).raw ++ rest) =
      (shape.take? body).map fun found =>
        (Directive.opening :: found.1, found.2 ++ '}' :: '}' :: rest) := by
  rw [Segment.raw_directive_append, take?, Part.take?_opens]
  simp only
  rw [inside]
  cases shape.take? body <;> rfl

/-- A pattern for the beginnings of directives looks at nothing behind a directive. -/
theorem staysInside_pattern {shape : Shape} {value : List Text → α}
    {solid : isSolid (.opens :: shape) = true} {body : Text} (inside : shape.StaysInside body) :
    (Shape.pattern (.opens :: shape) value solid).StaysInside body := by
  intro rest
  have bare := take?_opens_directive inside []
  rw [List.append_nil] at bare
  simp only [pattern]
  rw [take?_opens_directive inside, bare]
  cases shape.take? body with
  | none => rfl
  | some found => simp

end Shape

@[simp] theorem Part.avoidsClosing_blanks : Part.blanks.avoidsClosing = true := by decide

@[simp] theorem Part.avoidsClosing_gap : Part.gap.avoidsClosing = true := by decide

@[simp] theorem Part.avoidsClosing_bodyRun : Part.bodyRun.avoidsClosing = true := by decide

namespace Directive

/-- Words alone between braces are read whole. -/
theorem readsWhole_wordPattern {α : Type} {w : String} (value : α) {body : Text}
    (avoids : (Part.keyword w).avoidsClosing = true) (closed : '}' ∉ body) :
    (wordPattern w value).ReadsWhole body ∧
      (wordPattern w value).valueOf? body =
        (Shape.takeAll? [.blanks, .keyword w, .blanks] body).map fun _ => value :=
  Shape.readsWhole_pattern [.blanks, .keyword w, .blanks]
    (Shape.staysInside (by simp [avoids]) body) closed

/-- Words with everything behind them up to the closing braces are read whole. -/
theorem readsWhole_argumentTag {α : Type} {w : String} {value : List Text → α} {body : Text}
    (avoids : (Part.keyword w).avoidsClosing = true) (closed : '}' ∉ body) :
    ((argumentTag w).pattern value (Shape.isSolid_opens _)).ReadsWhole body ∧
      ((argumentTag w).pattern value (Shape.isSolid_opens _)).valueOf? body =
        (Shape.takeAll? [.blanks, .keyword w, .gap, .bodyRun] body).map fun pieces =>
          value (opening :: (pieces ++ [closing])) :=
  Shape.readsWhole_pattern [.blanks, .keyword w, .gap, .bodyRun]
    (Shape.staysInside (by simp [avoids]) body) closed

end Directive

end MailTemplate
