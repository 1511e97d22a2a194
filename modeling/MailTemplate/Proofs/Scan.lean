/-
Module: MailTemplate.Proofs.Scan
Purpose: How scans and replacements proceed piece by piece, and what a replacement preserves.
Main exports: Pattern.replaceOnto_append, Pattern.replaceWith_preserves, Pattern.replace_of_read,
  Pattern.replaceWith_eq_of_last, Pattern.replaceWith_congr, Pattern.replaceWith_self,
  Pattern.Splits, Pattern.scan_flatMap, Pattern.findOnto_of_scan, Pattern.occurs_cons,
  Pattern.map_snd_locate, Pattern.Bracketed
-/
import MailTemplate.Directive.Tag

/-!
A scan reads a text from left to right, so what it does to a text in two parts is what it does to
the parts, as long as no tag lies across the cut.  `Splits` says that of a first part and whatever
follows it. Everything that is made from a scan, the replacements and the list of hits, then falls
into two parts as well.

Nearly all patterns look for two opening braces first.  `Bracketed` patterns do, and their scans
pass over any text without an opening brace.
-/

namespace MailTemplate

namespace Pattern

variable {α σ : Type}

/-! ### Replacing in a row of tokens -/

/-- The state that the first tokens leave goes on to the rest. -/
theorem replaceOnto_append (f : Hit α → σ → Text × σ) (first second : List (Token α)) (s : σ) :
    replaceOnto f [] (first ++ second) s =
      ((replaceOnto f [] first s).1 ++ (replaceOnto f [] second (replaceOnto f [] first s).2).1,
        (replaceOnto f [] second (replaceOnto f [] first s).2).2) := by
  induction first generalizing s with
  | nil => simp [replaceOnto]
  | cons token first ih =>
      cases token with
      | plain c =>
          simp only [List.cons_append, replaceOnto]
          rw [replaceOnto_eq f [c] (first ++ second), replaceOnto_eq f [c] first, ih]
          simp
      | hit h =>
          simp only [List.cons_append, replaceOnto]
          rw [replaceOnto_eq f _ (first ++ second), replaceOnto_eq f _ first, ih]
          simp

/-- Plain characters are kept, and the state with them. -/
theorem replaceOnto_plain (f : Hit α → σ → Text × σ) (t : Text) (s : σ) :
    replaceOnto f [] (t.map .plain) s = (t, s) := by
  induction t with
  | nil => rfl
  | cons c t ih =>
      rw [List.map_cons, replaceOnto, replaceOnto_eq, ih]
      rfl

theorem replaceOnto_hit (f : Hit α → σ → Text × σ) (h : Hit α) (s : σ) :
    replaceOnto f [] [.hit h] s = f h s := by
  simp [replaceOnto, List.reverseAux_eq]

/-- Replacements that leave the state alone are replacements without one. -/
theorem replaceWith_stateless {f : Hit α → σ → Text × σ} {g : Hit α → Text} {s : σ}
    (same : ∀ hit, f hit s = (g hit, s)) (p : Pattern α) (t : Text) :
    p.replaceWith f t s = (p.replace g t, s) := by
  unfold replaceWith replace
  induction p.scan t with
  | nil => rfl
  | cons token tokens ih =>
      cases token with
      | plain c =>
          rw [replaceOnto, replaceOnto_eq, ih]
          rfl
      | hit h =>
          simp only [replaceOnto, same]
          rw [replaceOnto_eq, ih]
          simp [List.reverseAux_eq]

/-- What every single replacement keeps true of the state, the whole replacement keeps true. -/
theorem replaceWith_preserves {p : Pattern α} {f : Hit α → σ → Text × σ} {P : σ → Prop}
    (step : ∀ hit s, P s → P (f hit s).2) (t : Text) {s : σ} (start : P s) :
    P (p.replaceWith f t s).2 := by
  have tokens : ∀ (tokens : List (Token α)) (s : σ), P s → P (replaceOnto f [] tokens s).2 := by
    intro tokens
    induction tokens with
    | nil => exact fun s h => h
    | cons token tokens ih =>
        intro s h
        cases token with
        | plain c =>
            simp only [replaceOnto]
            rw [replaceOnto_eq]
            exact ih s h
        | hit found =>
            simp only [replaceOnto]
            rw [replaceOnto_eq]
            exact ih _ (step found s h)
  exact tokens (p.scan t) s start

/-! ### Cutting a text where no tag lies across the cut -/

/-- No tag reaches from a first part into what follows it, whatever that is. -/
def Splits (p : Pattern α) (first : Text) : Prop :=
  ∀ rest, p.scan (first ++ rest) = p.scan first ++ p.scan rest

/-- Parts that no tag leaves are scanned one by one. -/
theorem scan_flatMap {β : Type} {p : Pattern α} {f : β → Text} {parts : List β}
    (each : ∀ part ∈ parts, p.Splits (f part)) :
    p.scan (parts.flatMap f) = parts.flatMap fun part => p.scan (f part) := by
  induction parts with
  | nil => rfl
  | cons part parts ih =>
      rw [List.flatMap_cons, each part List.mem_cons_self, List.flatMap_cons]
      exact congrArg _ (ih fun other inside => each other (List.mem_cons_of_mem _ inside))

/-! ### One step of a replacement -/

/-- Text that a scan passes over stays in place. -/
theorem replaceWith_of_plain {p : Pattern α} {first rest : Text}
    (scan : p.scan (first ++ rest) = first.map .plain ++ p.scan rest) (f : Hit α → σ → Text × σ)
    (s : σ) :
    p.replaceWith f (first ++ rest) s = (first ++ (p.replaceWith f rest s).1,
        (p.replaceWith f rest s).2) := by
  rw [replaceWith, scan, replaceOnto_append, replaceOnto_plain]
  rfl

/-- The first tag is replaced, and the rest with the state that this leaves. -/
theorem replaceWith_of_hit {p : Pattern α} {first rest : Text} {hit : Hit α}
    (scan : p.scan (first ++ rest) = .hit hit :: p.scan rest) (f : Hit α → σ → Text × σ) (s : σ) :
    p.replaceWith f (first ++ rest) s =
      ((f hit s).1 ++ (p.replaceWith f rest (f hit s).2).1,
          (p.replaceWith f rest (f hit s).2).2) := by
  rw [replaceWith, scan, ← List.singleton_append, replaceOnto_append, replaceOnto_hit]
  rfl

/-- Where a tag stands, it is replaced, and the text behind it with the state that this leaves. -/
theorem replaceWith_of_read {p : Pattern α} {t rest : Text} {hit : Hit α}
    (read : p.read t = some (hit, rest)) (f : Hit α → σ → Text × σ) (s : σ) :
    p.replaceWith f t s =
      ((f hit s).1 ++ (p.replaceWith f rest (f hit s).2).1,
          (p.replaceWith f rest (f hit s).2).2) := by
  rw [replaceWith, scan_of_read read, ← List.singleton_append, replaceOnto_append, replaceOnto_hit]
  rfl

/-- Where no tag stands, one character stays in place. -/
theorem replaceWith_of_not_read {p : Pattern α} {c : Char} {t : Text}
    (unread : p.read (c :: t) = none) (f : Hit α → σ → Text × σ) (s : σ) :
    p.replaceWith f (c :: t) s =
      (c :: (p.replaceWith f t s).1, (p.replaceWith f t s).2) := by
  rw [replaceWith, scan_of_not_read unread, replaceOnto, replaceOnto_eq]
  rfl

/-- A tag at the head is replaced, and the rest by itself. -/
theorem replace_of_read {p : Pattern α} {t rest : Text} {hit : Hit α}
    (read : p.read t = some (hit, rest)) (f : Hit α → Text) :
    p.replace f t = f hit ++ p.replace f rest := by
  rw [replace, scan_of_read read, List.flatMap_cons, replace]

/-- A character at the head at which no tag stands is kept. -/
theorem replace_of_not_read {p : Pattern α} {c : Char} {t : Text} (unread : p.read (c :: t) = none)
    (f : Hit α → Text) : p.replace f (c :: t) = c :: p.replace f t := by
  rw [replace, scan_of_not_read unread, List.flatMap_cons, replace]
  rfl

/-- A tag at the head is dropped. -/
theorem erase_of_read {p : Pattern α} {t rest : Text} {hit : Hit α}
    (read : p.read t = some (hit, rest)) : p.erase t = p.erase rest :=
  replace_of_read read _

theorem erase_of_not_read {p : Pattern α} {c : Char} {t : Text} (unread : p.read (c :: t) = none) :
    p.erase (c :: t) = c :: p.erase t :=
  replace_of_not_read unread _

/-- Two replacements are the same if their steps are, as long as the first leaves the state with a
property.  It is enough that the last state has it, if no step can bring it about. -/
theorem replaceWith_eq_of_last {p : Pattern α} {f g : Hit α → σ → Text × σ} {P : σ → Prop}
    (step : ∀ hit s, P (f hit s).2 → P s ∧ g hit s = f hit s) (t : Text) {s : σ}
    (last : P (p.replaceWith f t s).2) : P s ∧ p.replaceWith g t s = p.replaceWith f t s := by
  induction t using p.scan_induction generalizing s with
  | nil => exact ⟨last, rfl⟩
  | plain c t unread ih =>
      rw [replaceWith_of_not_read unread] at last
      obtain ⟨start, same⟩ := ih last
      refine ⟨start, ?_⟩
      rw [replaceWith_of_not_read unread, replaceWith_of_not_read unread, same]
  | hit t found rest read ih =>
      rw [replaceWith_of_read read] at last
      obtain ⟨middle, behind⟩ := ih last
      obtain ⟨start, here⟩ := step found s middle
      refine ⟨start, ?_⟩
      rw [replaceWith_of_read read, replaceWith_of_read read, here, behind]

/-! ### Hits that are put back -/

/-- A tag at the head is the first hit. -/
theorem hits_of_read {p : Pattern α} {t rest : Text} {hit : Hit α}
    (read : p.read t = some (hit, rest)) : p.hits t = hit :: p.hits rest := by
  rw [hits, scan_of_read read]
  rfl

theorem hits_of_not_read {p : Pattern α} {c : Char} {t : Text} (unread : p.read (c :: t) = none) :
    p.hits (c :: t) = p.hits t := by
  rw [hits, scan_of_not_read unread]
  rfl

/-- Where the scan of a beginning is plain, all hits are behind it. -/
theorem hits_of_plain {p : Pattern α} {first rest : Text}
    (scan : p.scan (first ++ rest) = first.map .plain ++ p.scan rest) :
    p.hits (first ++ rest) = p.hits rest := by
  rw [hits, scan, List.filterMap_append, List.filterMap_map]
  simp [hits]

/-- A replacement asks about nothing but the hits of its text. -/
theorem replaceWith_congr {p : Pattern α} {f g : Hit α → σ → Text × σ} {t : Text}
    (same : ∀ hit ∈ p.hits t, ∀ s, f hit s = g hit s) (s : σ) :
    p.replaceWith f t s = p.replaceWith g t s := by
  induction t using p.scan_induction generalizing s with
  | nil => rfl
  | plain c t unread ih =>
      rw [hits_of_not_read unread] at same
      rw [replaceWith_of_not_read unread, replaceWith_of_not_read unread, ih same]
  | hit t found rest read ih =>
      rw [hits_of_read read] at same
      have later := ih fun hit later => same hit (List.mem_cons_of_mem _ later)
      rw [replaceWith_of_read read, replaceWith_of_read read, same found List.mem_cons_self, later]

/-- Where each hit is replaced by itself, the text stays as it is.  Only the hits of this text are
asked about, each in a state with a property that the replacements keep. -/
theorem replaceWith_self {p : Pattern α} {f : Hit α → σ → Text × σ} {P : σ → Prop} {t : Text}
    (same : ∀ hit ∈ p.hits t, ∀ s, P s → (f hit s).1 = hit.raw ∧ P (f hit s).2) {s : σ}
    (start : P s) : (p.replaceWith f t s).1 = t ∧ P (p.replaceWith f t s).2 := by
  induction t using p.scan_induction generalizing s with
  | nil => exact ⟨rfl, start⟩
  | plain c t unread ih =>
      rw [hits_of_not_read unread] at same
      obtain ⟨text, kept⟩ := ih same start
      rw [replaceWith_of_not_read unread]
      exact ⟨congrArg (c :: ·) text, kept⟩
  | hit t found rest read ih =>
      rw [hits_of_read read] at same
      obtain ⟨here, after⟩ := same found List.mem_cons_self s start
      obtain ⟨text, kept⟩ := ih (fun hit later => same hit (List.mem_cons_of_mem _ later)) after
      rw [replaceWith_of_read read]
      refine ⟨?_, kept⟩
      simp only [here, text]
      exact p.raw_append read

/-! ### The first hit -/

/-- The first hit that the scan meets is the one that is found. -/
theorem findOnto_of_scan {p : Pattern α} {before seen t : Text} {hit : Hit α}
    {tokens : List (Token α)} (scan : p.scan t = before.map .plain ++ .hit hit :: tokens) :
    p.findOnto seen t = some (seen.reverse ++ before, hit, tokens.flatMap Token.raw) := by
  induction before generalizing seen t with
  | nil =>
      cases t with
      | nil => simp [scan_nil] at scan
      | cons c t =>
          cases read : p.read (c :: t) with
          | none => simp [scan_of_not_read read] at scan
          | some found =>
              rw [scan_of_read read, List.map_nil, List.nil_append, List.cons.injEq,
                Token.hit.injEq] at scan
              rw [findOnto, read, ← scan.1, ← scan.2, scan_flatMap_raw, List.append_nil]
  | cons d before ih =>
      cases t with
      | nil => simp [scan_nil] at scan
      | cons c t =>
          cases read : p.read (c :: t) with
          | some found => simp [scan_of_read read] at scan
          | none =>
              rw [scan_of_not_read read, List.map_cons, List.cons_append, List.cons.injEq,
                Token.plain.injEq] at scan
              rw [findOnto, read]
              simp only
              rw [ih scan.2, scan.1]
              simp

theorem findOnto_of_plain {p : Pattern α} {seen t : Text} (scan : p.scan t = t.map .plain) :
    p.findOnto seen t = none := by
  induction t generalizing seen with
  | nil => rfl
  | cons c t ih =>
      cases read : p.read (c :: t) with
      | some found => simp [scan_of_read read] at scan
      | none =>
          rw [scan_of_not_read read, List.map_cons, List.cons.injEq] at scan
          rw [findOnto, read]
          exact ih scan.2

/-- Whether there is a tag does not depend on what has been passed over. -/
theorem isSome_findOnto (p : Pattern α) (seen other t : Text) :
    (p.findOnto seen t).isSome = (p.findOnto other t).isSome := by
  induction t generalizing seen other with
  | nil => rfl
  | cons c t ih =>
      rw [findOnto, findOnto]
      cases p.read (c :: t) with
      | none => exact ih _ _
      | some found => rfl

/-- A tag stands in a text if it stands at its head or in the rest. -/
theorem occurs_cons (p : Pattern α) (c : Char) (t : Text) :
    p.occurs (c :: t) = ((p.read (c :: t)).isSome || p.occurs t) := by
  rw [occurs, find?, findOnto]
  cases p.read (c :: t) with
  | none => exact isSome_findOnto p _ _ t
  | some found => rfl

/-- A tag at the head occurs. -/
theorem occurs_of_read {p : Pattern α} {t : Text} (here : (p.read t).isSome = true) :
    p.occurs t = true := by
  cases t with
  | nil =>
      obtain ⟨found, read⟩ := Option.isSome_iff_exists.1 here
      exact absurd (List.append_eq_nil_iff.1 (p.raw_append read)).1 (p.raw_ne_nil read)
  | cons c t => rw [occurs_cons, here, Bool.true_or]

/-- What occurs in a text occurs behind others. -/
theorem occurs_append {p : Pattern α} {t : Text} (here : p.occurs t = true) (s : Text) :
    p.occurs (s ++ t) = true := by
  induction s with
  | nil => exact here
  | cons c s ih => rw [List.cons_append, occurs_cons, ih, Bool.or_true]

/-- A located row is the row itself, without its columns. -/
theorem map_snd_locate (column : Nat) (row : List (Token α)) :
    (locate column row).map Prod.snd = row := by
  induction row generalizing column with
  | nil => rfl
  | cons token row ih => rw [locate, List.map_cons, ih]

/-! ### Patterns whose tags begin with two braces -/

/-- All tags of a pattern begin with two opening braces. -/
def Bracketed (p : Pattern α) : Prop :=
  ∀ (t : Text) (hit : Hit α) (rest : Text), p.read t = some (hit, rest) →
    ∃ inner, hit.raw = Directive.opening ++ inner

/-- A choice of two such patterns is one. -/
theorem Bracketed.orElse {p q : Pattern α} (hp : p.Bracketed) (hq : q.Bracketed) :
    (p.orElse q).Bracketed := by
  intro t hit rest found
  simp only [Pattern.orElse] at found
  split at found
  · rename_i first read
    rw [Option.some.inj found] at read
    exact hp _ _ _ read
  · exact hq _ _ _ found

/-- Blocks whose openers begin with two opening braces do so too. -/
theorem Bracketed.block {β : Type} {opener : Pattern α} (hp : opener.Bracketed)
    (closer : Pattern β) : (opener.block closer).Bracketed := by
  intro t hit rest found
  simp only [Pattern.block] at found
  split at found
  · exact absurd found (by simp)
  · rename_i opening behind read
    split at found
    · exact absurd found (by simp)
    · obtain ⟨inner, raw⟩ := hp _ _ _ read
      simp only [Option.some.injEq, Prod.mk.injEq] at found
      rw [← found.1, raw]
      exact ⟨_, by simp only [List.append_assoc]; rfl⟩

/-- Without two braces at the head nothing is read. -/
theorem Bracketed.read_eq_none {p : Pattern α} (hp : p.Bracketed) {t : Text}
    (other : ∀ rest, t ≠ Directive.opening ++ rest) : p.read t = none := by
  cases read : p.read t with
  | none => rfl
  | some found =>
      obtain ⟨hit, rest⟩ := found
      obtain ⟨inner, raw⟩ := hp _ _ _ read
      have whole := p.raw_append read
      rw [raw, List.append_assoc] at whole
      exact absurd whole.symm (other _)

theorem Bracketed.read_cons {p : Pattern α} (hp : p.Bracketed) {c : Char} (hc : c ≠ '{')
    (t : Text) : p.read (c :: t) = none :=
  hp.read_eq_none fun _ same => hc (List.cons.inj same).1

/-- A text without opening braces is read character by character. -/
theorem Bracketed.scan_append {p : Pattern α} (hp : p.Bracketed) {first : Text}
    (clear : '{' ∉ first) (rest : Text) :
    p.scan (first ++ rest) = first.map .plain ++ p.scan rest := by
  induction first with
  | nil => rfl
  | cons c first ih =>
      rw [List.mem_cons, not_or] at clear
      rw [List.cons_append, scan_of_not_read (hp.read_cons (Ne.symm clear.1) _), ih clear.2]
      rfl

/-- In a text without opening braces there are no tags. -/
theorem Bracketed.scan_eq {p : Pattern α} (hp : p.Bracketed) {t : Text} (clear : '{' ∉ t) :
    p.scan t = t.map .plain := by
  simpa [scan_nil] using hp.scan_append clear []

/-- So a scan can be cut behind it. -/
theorem Bracketed.splits {p : Pattern α} (hp : p.Bracketed) {t : Text} (clear : '{' ∉ t) :
    p.Splits t := by
  intro rest
  rw [hp.scan_append clear, hp.scan_eq clear]

end Pattern

/-- The tags of a shape that begins with two opening braces begin with these. -/
theorem Shape.bracketed_pattern {α : Type} {shape : Shape} {value : List Text → α}
    {solid : Shape.isSolid (.opens :: shape) = true} :
    (Shape.pattern (.opens :: shape) value solid).Bracketed := by
  intro t hit rest found
  simp only [Shape.pattern] at found
  split at found
  · exact absurd found (by simp)
  · rename_i pieces after taken
    obtain ⟨piece, middle, others, first, _, rfl⟩ := Shape.take?_cons taken
    obtain ⟨_, _, same⟩ := Option.map_eq_some_iff.1 first
    simp only [Option.some.injEq, Prod.mk.injEq] at found same
    exact ⟨others.flatten, by rw [← found.1, ← same.1]; rfl⟩

theorem Directive.bracketed_wordPattern {α : Type} (w : String) (value : α) :
    (wordPattern w value).Bracketed :=
  Shape.bracketed_pattern

end MailTemplate
