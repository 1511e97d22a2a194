/-
Module: MailTemplate.Text.Shape
Purpose: Shapes: rows of fixed words and longest runs, by which tags are recognised.
Main exports: Part, Shape, Part.take?, Shape.take?, Shape.isSolid, Shape.take?_flatten
-/
import MailTemplate.Text.LetterCase

/-!
Most tags are a row of fixed words and of runs of characters of a class, such as two braces, blanks, the
word `loop`, blanks, digits, blanks, two braces.  A *shape* is such a row.  It is read from left to right,
each run taking as much as it can.  In all shapes of this library the character after a run is outside the
run's class, so taking less would never let the rest of the shape match: reading needs no second try.

Reading gives the pieces that the parts took, one piece for each part, and the text that follows.
-/

namespace MailTemplate

/-- One part of a shape. -/
inductive Part where
  /-- Exactly these characters. -/
  | word (w : Text)
  /-- These letters, in either case. -/
  | letters (w : Text)
  /-- One character of a class. -/
  | one (p : Char → Bool)
  /-- The longest run of characters of a class, possibly empty. -/
  | many (p : Char → Bool)
  /-- The longest run of characters of a class, not empty. -/
  | atLeastOne (p : Char → Bool)
  /-- No character at all, where the next one is not of a class. -/
  | boundary (p : Char → Bool)

/-- A row of parts. -/
abbrev Shape := List Part

namespace Part

/-- The piece that a part takes off the head of a text, and the rest. -/
def take? : Part → Text → Option (Text × Text)
  | .word w, t => (Text.dropPrefix? w t).map fun rest => (w, rest)
  | .letters w, t => Text.takeLetters? w t
  | .one _, [] => none
  | .one p, c :: t => if p c then some ([c], t) else none
  | .many p, t => some (Text.takeRun p t)
  | .atLeastOne p, t =>
      match Text.takeRun p t with
      | ([], _) => none
      | taken => some taken
  | .boundary _, [] => some ([], [])
  | .boundary p, c :: t => if p c then none else some ([], c :: t)

/-- Whether a part never takes the empty piece. -/
def isSolid : Part → Bool
  | .word w => !w.isEmpty
  | .letters w => !w.isEmpty
  | .one _ => true
  | .many _ => false
  | .atLeastOne _ => true
  | .boundary _ => false

/-- A part takes its piece off the head and loses nothing. -/
theorem take?_append {part : Part} {t piece rest : Text} (h : part.take? t = some (piece, rest)) :
    piece ++ rest = t := by
  cases part with
  | word w =>
      obtain ⟨after, found, same⟩ := Option.map_eq_some_iff.1 h
      simp only [Prod.mk.injEq] at same
      rw [← same.1, ← same.2]
      exact (Text.eq_append_of_dropPrefix? found).symm
  | letters w => exact (Text.takeLetters?_append h).symm
  | one p =>
      cases t with
      | nil => simp [take?] at h
      | cons c t =>
          by_cases hc : p c <;> simp [take?, hc] at h
          simp [← h.1, ← h.2]
  | many p =>
      simp only [take?, Option.some.injEq] at h
      rw [← Text.takeRun_append p t, h]
  | atLeastOne p =>
      simp only [take?] at h
      split at h
      · exact absurd h (by simp)
      · simp only [Option.some.injEq] at h
        rw [← Text.takeRun_append p t, h]
  | boundary p =>
      cases t with
      | nil => simp_all [take?]
      | cons c t => by_cases hc : p c <;> simp_all [take?]

/-- The piece of a solid part is not empty. -/
theorem take?_ne_nil {part : Part} {t piece rest : Text} (h : part.take? t = some (piece, rest))
    (solid : part.isSolid = true) : piece ≠ [] := by
  cases part with
  | word w =>
      obtain ⟨after, _, same⟩ := Option.map_eq_some_iff.1 h
      simp only [Prod.mk.injEq] at same
      intro empty
      simp [isSolid, same.1, empty] at solid
  | letters w =>
      cases w with
      | nil => simp [isSolid] at solid
      | cons l w =>
          cases t with
          | nil => simp [take?, Text.takeLetters?] at h
          | cons c t =>
              simp only [take?, Text.takeLetters?] at h
              split at h
              · obtain ⟨inner, _, same⟩ := Option.map_eq_some_iff.1 h
                simp only [Prod.mk.injEq] at same
                simp [← same.1]
              · exact absurd h (by simp)
  | one p =>
      cases t with
      | nil => simp [take?] at h
      | cons c t =>
          by_cases hc : p c <;> simp [take?, hc] at h
          simp [← h.1]
  | many p => simp [isSolid] at solid
  | atLeastOne p =>
      simp only [take?] at h
      split at h
      · exact absurd h (by simp)
      · rename_i other
        simp only [Option.some.injEq] at h
        intro empty
        exact other rest (by rw [h, empty])
  | boundary p => simp [isSolid] at solid

end Part

namespace Shape

/-- The pieces that the parts of a shape take off the head of a text, one for each part, and the rest. -/
def take? : Shape → Text → Option (List Text × Text)
  | [], t => some ([], t)
  | part :: shape, t =>
      match part.take? t with
      | none => none
      | some (piece, rest) =>
          match take? shape rest with
          | none => none
          | some (pieces, rest) => some (piece :: pieces, rest)

/-- Whether some part of a shape never takes the empty piece. -/
def isSolid (shape : Shape) : Bool :=
  shape.any Part.isSolid

theorem take?_cons {part : Part} {shape : Shape} {t rest : Text} {pieces : List Text}
    (h : take? (part :: shape) t = some (pieces, rest)) :
    ∃ piece middle others, part.take? t = some (piece, middle) ∧
      take? shape middle = some (others, rest) ∧ pieces = piece :: others := by
  simp only [take?] at h
  split at h
  · exact absurd h (by simp)
  · rename_i piece middle first
    split at h
    · exact absurd h (by simp)
    · rename_i others after second
      simp only [Option.some.injEq, Prod.mk.injEq] at h
      exact ⟨piece, middle, others, first, h.2 ▸ second, h.1.symm⟩

/-- The pieces in a row, followed by the rest, are the text that was read. -/
theorem take?_flatten {shape : Shape} {t rest : Text} {pieces : List Text}
    (h : shape.take? t = some (pieces, rest)) : pieces.flatten ++ rest = t := by
  induction shape generalizing t pieces with
  | nil =>
      simp only [take?, Option.some.injEq, Prod.mk.injEq] at h
      simp [← h.1, h.2]
  | cons part shape ih =>
      obtain ⟨piece, middle, others, first, second, rfl⟩ := take?_cons h
      rw [List.flatten_cons, List.append_assoc, ih second, Part.take?_append first]

/-- Every part gives one piece. -/
theorem length_take? {shape : Shape} {t rest : Text} {pieces : List Text}
    (h : shape.take? t = some (pieces, rest)) : pieces.length = shape.length := by
  induction shape generalizing t pieces with
  | nil =>
      simp only [take?, Option.some.injEq, Prod.mk.injEq] at h
      simp [← h.1]
  | cons part shape ih =>
      obtain ⟨piece, middle, others, _, second, rfl⟩ := take?_cons h
      simp [ih second]

/-- What a solid shape takes is not empty. -/
theorem take?_ne_nil {shape : Shape} {t rest : Text} {pieces : List Text}
    (h : shape.take? t = some (pieces, rest)) (solid : shape.isSolid = true) :
    pieces.flatten ≠ [] := by
  induction shape generalizing t pieces with
  | nil => simp [isSolid] at solid
  | cons part shape ih =>
      obtain ⟨piece, middle, others, first, second, rfl⟩ := take?_cons h
      simp only [isSolid, List.any_cons, Bool.or_eq_true] at solid
      simp only [List.flatten_cons, ne_eq, List.append_eq_nil_iff, not_and]
      intro empty
      rcases solid with here | later
      · exact absurd empty (Part.take?_ne_nil first here)
      · exact ih second later

end Shape

end MailTemplate
