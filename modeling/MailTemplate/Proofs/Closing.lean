/-
Module: MailTemplate.Proofs.Closing
Purpose: Where a directive ends: the search for the closing braces, step by step and in bytes.
Main exports: Directive.stopsAt, Directive.depthAfter, Directive.closingOnto_cons,
  Directive.closing?_body, Directive.closing?_append_clear, Text.splitAtByte_append,
  Directive.endOffset?_opened
-/
import MailTemplate.Directive.Extent

/-!
The reader that looks for the end of a directive starts behind the opening braces and stops at the
closing ones.  `closingOnto_cons` says what it does at a character: it stops, or it goes on with
another literal or another number of open braces.

So it looks neither at what stands in front of the opening nor at what follows the end.
-/

namespace MailTemplate

/-- What ends in a character ends in front of any text at the end that does not have it. -/
theorem Text.eq_append_of_clear {stop : Char} {front after t s : Text} (clear : stop ∉ s)
    (same : front ++ [stop] ++ after = t ++ s) :
    ∃ left, t = front ++ [stop] ++ left ∧ after = left ++ s := by
  rcases List.append_eq_append_iff.1 same with found | ⟨back, whole, rfl⟩
  · exact found
  · -- The stop character would be the last of `back`, a part of the text that does not have it.
    rcases List.eq_nil_or_concat back with rfl | ⟨others, last, rfl⟩
    · exact ⟨[], by simpa using whole.symm, rfl⟩
    · rw [List.concat_eq_append, ← List.append_assoc] at whole
      have own := List.append_inj_right' whole rfl
      obtain rfl : stop = last := by simpa using own
      exact absurd (by simp) clear

/-! ### The search for the end -/

namespace Directive

/-- Whether the search for the end of a directive stops at `c`, in front of `rest`. -/
def stopsAt (quote : Option Char) (depth : Nat) (c : Char) (rest : Text) : Bool :=
  quote.isNone && c == '}' && depth == 0 && rest.head? == some '}'

/-- How many braces are open behind `c`. -/
def depthAfter (quote : Option Char) (previous : Char) (depth : Nat) (c : Char) : Nat :=
  if quote.isSome || (quoteAfter quote previous c).isSome then depth
  else if c == '{' then depth + 1
  else if c == '}' then depth - 1
  else depth

/-- One step of the search for the end. -/
theorem closingOnto_cons (taken : Text) (previous : Char) (quote : Option Char) (depth : Nat)
    (c : Char) (rest : Text) :
    closingOnto taken previous quote depth (c :: rest) =
      if stopsAt quote depth c rest then some (taken.reverse, rest.tail)
      else closingOnto (c :: taken) c (quoteAfter quote previous c)
        (depthAfter quote previous depth c) rest := by
  simp only [closingOnto, depthAfter]
  split
  · rename_i quoted
    have goes : stopsAt quote depth c rest = false := by
      cases quote with
      | some q => rfl
      | none =>
          have mark : c ≠ '}' := by
            rintro rfl
            simp [quoteAfter, isQuote] at quoted
          simp [stopsAt, mark]
    rw [goes, if_neg Bool.false_ne_true]
  · rename_i unquoted
    obtain ⟨rfl, next⟩ : quote = none ∧ quoteAfter quote previous c = none := by
      simpa using unquoted
    rw [next]
    by_cases closes : c = '}'
    · subst closes
      cases depth with
      | succ depth => simp [stopsAt]
      | zero =>
          rcases rest with _ | ⟨d, rest⟩
          · simp [stopsAt]
          · by_cases second : d = '}' <;> simp [stopsAt, second]
    · by_cases opens : c = '{' <;> simp [stopsAt, closes, opens]

/-- The search for the end of a directive looks at nothing behind the end. -/
theorem closingOnto_rest {taken t body after : Text} {previous : Char} {quote : Option Char}
    {depth : Nat} (closed : closingOnto taken previous quote depth t = some (body, after)) :
    ∃ inner, body = taken.reverse ++ inner ∧ ∀ rest,
      closingOnto taken previous quote depth (inner ++ closing ++ rest) = some (body, rest) := by
  -- The induction is on the text that is read; `inner` is what is read of it before the end.
  induction t generalizing taken previous quote depth with
  | nil => simp [closingOnto] at closed
  | cons c t ih =>
      rw [closingOnto_cons] at closed
      split at closed
      · rename_i stops
        obtain ⟨rfl, rfl⟩ := Prod.mk.inj (Option.some.inj closed)
        simp only [stopsAt, Bool.and_eq_true, Option.isNone_iff_eq_none, beq_iff_eq] at stops
        obtain ⟨⟨⟨rfl, rfl⟩, rfl⟩, _⟩ := stops
        refine ⟨[], by simp, fun rest => ?_⟩
        rw [List.nil_append, closing, List.cons_append, closingOnto_cons]
        rfl
      · rename_i goes
        obtain ⟨inner, rfl, stops⟩ := ih closed
        have whole : inner ++ closing ++ after = t := by
          have all := closingOnto_append closed
          rw [List.append_assoc, List.append_assoc] at all
          rw [List.append_assoc]
          exact List.append_cancel_left all
        refine ⟨c :: inner, by simp, fun rest => ?_⟩
        have head : (inner ++ closing ++ rest).head? = t.head? := by
          rw [← whole]
          cases inner <;> rfl
        rw [List.cons_append, List.cons_append, closingOnto_cons]
        rw [stopsAt, ← head, ← stopsAt] at goes
        rw [if_neg goes]
        exact stops rest

/-- The end of a directive is found whatever follows it. -/
theorem closing?_body {t body after : Text} (closed : closing? '{' t = some (body, after))
    (rest : Text) : closing? '{' (body ++ closing ++ rest) = some (body, rest) := by
  obtain ⟨inner, rfl, stops⟩ := closingOnto_rest closed
  exact stops rest

/-- Text without a closing brace neither ends a directive nor hides where one ends. -/
theorem closing?_append_clear {s : Text} (clear : '}' ∉ s) (t : Text) :
    closing? '{' (t ++ s) = (closing? '{' t).map fun found => (found.1, found.2 ++ s) := by
  cases alone : closing? '{' t with
  | some found =>
      obtain ⟨body, after⟩ := found
      rw [← closing?_append alone, List.append_assoc, closing?_body alone]
      rfl
  | none =>
      cases both : closing? '{' (t ++ s) with
      | none => rfl
      | some found =>
          obtain ⟨body, after⟩ := found
          have whole : body ++ ['}'] ++ ['}'] ++ after = t ++ s := by
            simpa [closing] using closing?_append both
          obtain ⟨left, rfl, _⟩ := Text.eq_append_of_clear clear whole
          have closed := closing?_body both left
          rw [closing, List.append_cons] at closed
          exact absurd (alone.symm.trans closed) (by simp)

end Directive

/-! ### The same in bytes -/

namespace Text

/-- The size of a part is where the rest begins. -/
theorem splitAtByte_append (first rest : Text) :
    splitAtByte (byteLength first) (first ++ rest) = (first, rest) := by
  have go (first taken : Text) : splitAtByte.go (byteLength first) taken (first ++ rest) =
      (taken.reverse ++ first, rest) := by
    induction first generalizing taken with
    | nil => cases rest <;> simp [splitAtByte.go, byteLength]
    | cons c first ih =>
        have solid : ((c.utf8Size + byteLength first) == 0) = false := by
          have positive := c.utf8Size_pos
          rw [beq_eq_false_iff_ne]
          omega
        rw [List.cons_append, splitAtByte.go, byteLength_cons, solid, Nat.add_sub_cancel_left]
        simp only [Bool.false_eq_true, if_false]
        rw [ih (c :: taken), List.reverse_cons, List.append_assoc, List.singleton_append]
  rw [splitAtByte, go, List.reverse_nil, List.nil_append]

/-- Two beginnings of a text are the same if they have the same size. -/
theorem append_inj_of_byteLength {a b x y : Text} (same : a ++ x = b ++ y)
    (size : byteLength a = byteLength b) : a = b := by
  have cut := splitAtByte_append a x
  rw [same, size, splitAtByte_append] at cut
  exact (Prod.mk.inj cut).1.symm

end Text

namespace Directive

/-- Where the directive opened behind a text ends does not depend on the text. -/
theorem endOffset?_opened (before rest : Text) :
    endOffset? (before ++ opening ++ rest) (Text.byteLength before) =
      (closing? '{' rest).map fun found =>
        Text.byteLength (before ++ opening) + Text.byteLength found.1 := by
  have size : Text.byteLength before + 2 = Text.byteLength (before ++ opening) := by
    rw [Text.byteLength_append]
    rfl
  have last : (before ++ opening).getLastD '{' = '{' := by
    simp [List.getLastD_eq_getLast?, opening]
  rw [endOffset?, size, Text.splitAtByte_append]
  simp only [last]

end Directive

end MailTemplate
