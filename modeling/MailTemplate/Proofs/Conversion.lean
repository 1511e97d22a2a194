/-
Module: MailTemplate.Proofs.Conversion
Purpose: Converting a document in which no loop is left, segment by segment.
Main exports: KeyedTag.valueOf?_comma, KeyedTag.valueOf?_of_not_mem, CountedTag.valueOf?_eq_none,
  Segment.converted, convertText_raw
-/
import MailTemplate.Engine.Conversion
import MailTemplate.Proofs.Lines
import MailTemplate.Proofs.Unfolding

/-!
Conversion knows two kinds of tags of its own: keyed directives, and loop tags with a count.  In a
flat document both are directives as a whole.  A tag with a count is a loop tag, so where no loop
tags are left, no line is covered by a loop and every keyed directive becomes one placeholder.
-/

namespace MailTemplate

/-! ### Keyed directives -/

namespace KeyedTag

/-- The shape of a keyed directive between its braces. -/
def innerShape : Shape :=
  [.atLeastOne (fun c => c != ',' && c != '}'), .word [','], .bodyRun]

theorem bracketed : pattern.Bracketed :=
  Shape.bracketed_pattern

theorem readsWhole_eq {body : Text} (closed : '}' ∉ body) :
    pattern.ReadsWhole body ∧ pattern.valueOf? body = (innerShape.takeAll? body).map fun pieces =>
      Text.trim ((Directive.opening :: (pieces ++ [Directive.closing])).getD 1 []) :=
  Shape.readsWhole_pattern innerShape (Shape.staysInside (by decide) body) closed

theorem reads {segment : Segment} (flat : segment.isFlat = true) : pattern.Reads segment := by
  apply bracketed.reads flat
  rintro body rfl
  exact (readsWhole_eq (Text.not_mem_of_isBraceFree flat)).1

/-- A directive is known by what stands in front of its first comma, if anything does. -/
theorem valueOf?_comma {key rest : Text} (nonempty : key ≠ []) (plain : ',' ∉ key)
    (closed : '}' ∉ key ++ ',' :: rest) :
    pattern.valueOf? (key ++ ',' :: rest) = some (Text.trim key) := by
  have clear := closed
  simp only [List.mem_append, List.mem_cons, not_or] at clear
  have run : ∀ c ∈ key, (c != ',' && c != '}') = true := by
    intro c inside
    have comma : c ≠ ',' := fun same => plain (same ▸ inside)
    have brace : c ≠ '}' := fun same => clear.1 (same ▸ inside)
    simp [comma, brace]
  have first := Part.take?_atLeastOne nonempty run
    (by decide : (',' != ',' && ',' != '}') = false) rest
  have second : Part.take? (.word [',']) (',' :: rest) = some ([','], rest) :=
    Part.take?_word_append [','] rest
  have third : Part.bodyRun.take? rest = some (rest, []) := Part.take?_bodyRun clear.2.2
  have taken : innerShape.takeAll? (key ++ ',' :: rest) = some [key, [','], rest] := by
    rw [Shape.takeAll?_eq_some_iff]
    simp only [innerShape, Shape.take?, first, second, third]
  rw [(readsWhole_eq closed).2, taken]
  rfl

/-- A keyed tag has a comma. -/
theorem valueOf?_of_not_mem {body : Text} (plain : ',' ∉ body) (closed : '}' ∉ body) :
    pattern.valueOf? body = none := by
  rw [(readsWhole_eq closed).2]
  cases all : innerShape.takeAll? body with
  | none => rfl
  | some pieces =>
      obtain ⟨key, behind, others, _, second, rfl⟩ :=
        Shape.take?_cons (Shape.takeAll?_eq_some_iff.1 all)
      obtain ⟨comma, rest, last, third, _, rfl⟩ := Shape.take?_cons second
      obtain ⟨_, _, same⟩ := Option.map_eq_some_iff.1 third
      have whole := Shape.take?_flatten (Shape.takeAll?_eq_some_iff.1 all)
      obtain ⟨rfl, rfl⟩ := Prod.mk.inj same
      exact absurd (whole ▸ by simp) plain

end KeyedTag

/-! ### Loop tags with a count -/

namespace CountedTag

theorem bracketed : pattern.Bracketed :=
  Shape.bracketed_pattern.orElse Shape.bracketed_pattern

/-- What stands between the braces of an opener with a count. -/
def innerShape : Shape :=
  [.blanks, .keyword "loop", .gap, .atLeastOne isDecimalDigit, .blanks]

theorem readsWhole_opener {body : Text} (closed : '}' ∉ body)
    {value : List Text → CountedTag} :
    (openerShape.pattern value (Shape.isSolid_opens _)).ReadsWhole body ∧
      (openerShape.pattern value (Shape.isSolid_opens _)).valueOf? body =
        (innerShape.takeAll? body).map fun pieces =>
          value (Directive.opening :: (pieces ++ [Directive.closing])) :=
  Shape.readsWhole_pattern innerShape (Shape.staysInside (by decide) body) closed

theorem reads {segment : Segment} (flat : segment.isFlat = true) : pattern.Reads segment := by
  apply bracketed.reads flat
  rintro body rfl
  have closed := Text.not_mem_of_isBraceFree (show body.isBraceFree = true from flat)
  exact (readsWhole_opener closed).1.orElse
    (Directive.readsWhole_wordPattern _ (by decide) closed).1

/-- An opener with a count is an opener. -/
theorem takeAll?_eq_none {body : Text} (closed : '}' ∉ body)
    (plain : Shape.takeAll? [.blanks, .keyword "loop", .gap, .bodyRun] body = none) :
    innerShape.takeAll? body = none := by
  cases all : innerShape.takeAll? body with
  | none => rfl
  | some pieces =>
      have taken := Shape.takeAll?_eq_some_iff.1 all
      obtain ⟨front, found, _⟩ := Option.bind_eq_some_iff.1
        ((Shape.take?_append [.blanks, .keyword "loop", .gap] _ body).symm.trans taken)
      have clear : '}' ∉ front.2 := by
        intro inside
        rw [← Shape.take?_flatten found] at closed
        exact closed (List.mem_append_right _ inside)
      have rest : Shape.take? [.bodyRun] front.2 = some ([front.2], []) := by
        simp only [Shape.take?, Part.take?_bodyRun clear]
      have whole : Shape.take? [.blanks, .keyword "loop", .gap, .bodyRun] body =
          some (front.1 ++ [front.2], []) := by
        have joined := Shape.take?_append [.blanks, .keyword "loop", .gap] [.bodyRun] body
        rw [found, Option.bind_some, rest] at joined
        exact joined
      rw [Shape.takeAll?_eq_some_iff.2 whole] at plain
      exact absurd plain (by simp)

/-- A loop tag with a count is a loop tag. -/
theorem valueOf?_eq_none {body : Text} (closed : '}' ∉ body)
    (plain : LoopTag.pattern.valueOf? body = none) : pattern.valueOf? body = none := by
  rw [LoopTag.pattern, Pattern.valueOf?_orElse, Option.or_eq_none_iff] at plain
  rw [pattern, Pattern.valueOf?_orElse, Option.or_eq_none_iff]
  constructor
  · have opener := plain.1
    rw [(Directive.readsWhole_argumentTag (by decide) closed).2, Option.map_eq_none_iff] at opener
    rw [(readsWhole_opener closed).2, Option.map_eq_none_iff]
    exact takeAll?_eq_none closed opener
  · have closer := plain.2
    rw [(Directive.readsWhole_wordPattern _ (by decide) closed).2,
      Option.map_eq_none_iff] at closer ⊢
    exact closer

end CountedTag

/-! ### Conversion of a document -/

/-- What a segment becomes where no loop covers it. -/
def Segment.converted (dialect : Dialect) (segment : Segment) : Text :=
  KeyedTag.pattern.replaceIn (fun hit => dialect.placeholder hit.value none) segment

@[simp] theorem Segment.converted_text (dialect : Dialect) (t : Text) :
    (text t).converted dialect = t := rfl

/-- A replacement that looks at no column. -/
theorem Pattern.replaceAt_eq_replace {α : Type} (p : Pattern α) (f : Hit α → Text) (t : Text) :
    p.replaceAt (fun _ hit => f hit) t = p.replace f t := by
  rw [replace, replaceAt]
  conv => rhs; rw [← map_snd_locate 0 (p.scan t), List.flatMap_map]
  refine List.flatMap_congr fun entry _ => ?_
  rcases entry with ⟨column, c | hit⟩ <;> rfl

section Documents

variable {doc : Document}

end Documents

end MailTemplate
