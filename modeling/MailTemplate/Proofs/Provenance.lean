/-
Module: MailTemplate.Proofs.Provenance
Purpose: Where the characters of a result come from.
Main exports: Text.Within, Pattern.Quotes, Pattern.replaceWith_within, unfoldLoops_within,
  Assembly.placed_within, Assembly.processBehind_within
-/
import MailTemplate.Proofs.Passes
import MailTemplate.Proofs.Printed
import MailTemplate.Proofs.Unfolding

/-!
Processing adds few characters of its own: numbers, the underscore and the comma of a numbered key,
the braces around it, and the comments that stand in place of refused references.  All of them are
ASCII characters.  So a class that holds the ASCII characters and those of the template, the markups
and the values holds all characters of the result.
-/

namespace MailTemplate

/-- All characters of a text are of a class. -/
def Text.Within (Q : Char → Prop) (t : Text) : Prop :=
  ∀ c ∈ t, Q c

namespace Text

variable {Q : Char → Prop}

@[simp] theorem within_nil : Within Q [] := by
  simp [Within]

@[simp] theorem within_cons {c : Char} {t : Text} : Within Q (c :: t) ↔ Q c ∧ Within Q t := by
  simp [Within]

@[simp] theorem within_append {s t : Text} : Within Q (s ++ t) ↔ Within Q s ∧ Within Q t :=
  List.forall_mem_append

@[simp] theorem within_reverse {t : Text} : Within Q t.reverse ↔ Within Q t := by
  simp [Within]

/-- What is taken from a text of a class is of the class. -/
theorem Within.of_subset {s t : Text} (within : Within Q t) (subset : s ⊆ t) : Within Q s :=
  fun c inside => within c (subset inside)

/-- The digits of a number are ASCII characters. -/
theorem within_ofNat (ascii : ∀ c : Char, c.toNat < 128 → Q c) (n : Nat) :
    Within Q (Text.ofNat n) := by
  intro c inside
  have digit := isDigit_of_mem_ofNat inside
  simp only [Char.isDigit, Bool.and_eq_true, decide_eq_true_eq] at digit
  have last : c.toNat ≤ 57 := digit.2
  exact ascii c (by omega)

end Text

/-! ### Values that are written in their tags -/

namespace Pattern

variable {α β σ : Type} {Q : Char → Prop}

/-- What `part` takes from the value of a tag is written in the tag. -/
def Quotes (p : Pattern α) (part : α → Text) : Prop :=
  ∀ (t : Text) (hit : Hit α) (rest : Text), p.read t = some (hit, rest) → part hit.value ⊆ hit.raw

/-- Where a tag is read in one of two ways, it is enough that each of them quotes. -/
theorem Quotes.orElse {p q : Pattern α} {part : α → Text} (hp : p.Quotes part)
    (hq : q.Quotes part) : (p.orElse q).Quotes part := by
  intro t hit rest found
  simp only [Pattern.orElse] at found
  split at found
  · rename_i first read
    rw [Option.some.inj found] at read
    exact hp _ _ _ read
  · exact hq _ _ _ found

/-- The parts of a block are what its opener says and the text up to its closer. -/
theorem Quotes.block {opener : Pattern α} {part : α → Text} (quotes : opener.Quotes part)
    (closer : Pattern β) :
    (opener.block closer).Quotes (fun value => part value.1) ∧
      (opener.block closer).Quotes Prod.snd := by
  have parts (t : Text) (hit : Hit (α × Text)) (rest : Text)
      (found : (opener.block closer).read t = some (hit, rest)) :
      part hit.value.1 ⊆ hit.raw ∧ hit.value.2 ⊆ hit.raw := by
    simp only [Pattern.block] at found
    split at found
    · exact absurd found (by simp)
    · rename_i opening behind read
      split at found
      · exact absurd found (by simp)
      · simp only [Option.some.injEq, Prod.mk.injEq] at found
        rw [← found.1]
        have own := quotes _ _ _ read
        constructor
        · intro c inside
          exact List.mem_append_left _ (List.mem_append_left _ (own inside))
        · intro c inside
          exact List.mem_append_left _ (List.mem_append_right _ inside)
  exact ⟨fun t hit rest found => (parts t hit rest found).1,
    fun t hit rest found => (parts t hit rest found).2⟩

/-- A tag that a scan meets has been read from what was left of the text. -/
theorem read_of_mem_scan {p : Pattern α} {t : Text} {hit : Hit α} (inside : .hit hit ∈ p.scan t) :
    ∃ left rest : Text, p.read left = some (hit, rest) := by
  induction length : t.length using Nat.strongRecOn generalizing t with
  | ind n ih =>
      cases t with
      | nil => simp [scan_nil] at inside
      | cons c t =>
          cases read : p.read (c :: t) with
          | none =>
              rw [scan_of_not_read read, List.mem_cons] at inside
              rcases inside with impossible | inside
              · exact absurd impossible (by simp)
              · exact ih t.length (by rw [← length]; simp) inside rfl
          | some found =>
              obtain ⟨first, rest⟩ := found
              rw [scan_of_read read, List.mem_cons, Token.hit.injEq] at inside
              rcases inside with rfl | inside
              · exact ⟨_, _, read⟩
              · have whole := congrArg List.length (p.raw_append read)
                have solid := List.length_pos_iff.2 (p.raw_ne_nil read)
                rw [List.length_append, length] at whole
                exact ih rest.length (by omega) inside rfl

/-- Tokens are read from their text, so they hold no other characters. -/
theorem raw_subset_of_mem_scan {p : Pattern α} {t : Text} {token : Token α}
    (inside : token ∈ p.scan t) : token.raw ⊆ t := by
  intro c here
  rw [← p.scan_flatMap_raw t]
  exact List.mem_flatMap.2 ⟨token, inside, here⟩

/-- What a scanned tag quotes stands in the scanned text. -/
theorem Quotes.subset {p : Pattern α} {part : α → Text} (quotes : p.Quotes part) {t : Text}
    {hit : Hit α} (inside : .hit hit ∈ p.scan t) : part hit.value ⊆ t := by
  obtain ⟨left, rest, read⟩ := read_of_mem_scan inside
  intro c here
  exact raw_subset_of_mem_scan inside (quotes _ _ _ read here)

/-- What the first tag of a text quotes stands in the text. -/
theorem Quotes.subset_of_findOnto {p : Pattern α} {part : α → Text} (quotes : p.Quotes part)
    {seen t before after : Text} {hit : Hit α}
    (found : p.findOnto seen t = some (before, hit, after)) : part hit.value ⊆ t := by
  induction t generalizing seen with
  | nil => simp [findOnto] at found
  | cons c t ih =>
      rw [findOnto] at found
      split at found
      · rename_i first rest read
        obtain ⟨-, found⟩ := Prod.mk.inj (Option.some.inj found)
        obtain ⟨rfl, rfl⟩ := Prod.mk.inj found
        intro d inside
        rw [← p.raw_append read]
        exact List.mem_append_left _ (quotes _ _ _ read inside)
      · exact fun d inside => List.mem_cons_of_mem _ (ih found inside)

/-- A replacement adds only what is put in the place of tags. -/
theorem replaceWith_within {p : Pattern α} {f : Hit α → σ → Text × σ} {t : Text}
    (within : t.Within Q) (each : ∀ hit, .hit hit ∈ p.scan t → ∀ s, (f hit s).1.Within Q) (s : σ) :
    (p.replaceWith f t s).1.Within Q := by
  have plain : ∀ c, .plain c ∈ p.scan t → Q c := fun c inside =>
    within c (raw_subset_of_mem_scan inside (List.mem_singleton_self c))
  unfold replaceWith
  generalize p.scan t = tokens at each plain
  induction tokens generalizing s with
  | nil => exact Text.within_nil
  | cons token tokens ih =>
      have others (s : σ) := ih s (fun hit inside => each hit (List.mem_cons_of_mem _ inside))
        (fun c inside => plain c (List.mem_cons_of_mem _ inside))
      cases token with
      | plain c =>
          rw [replaceOnto, replaceOnto_eq]
          exact Text.within_append.2 ⟨by simpa using plain c List.mem_cons_self, others s⟩
      | hit hit =>
          simp only [replaceOnto]
          rw [replaceOnto_eq]
          refine Text.within_append.2 ⟨?_, others _⟩
          simpa [List.reverseAux_eq] using each hit List.mem_cons_self s

/-- A replacement that threads no state is one whose state says nothing. -/
theorem replace_within {p : Pattern α} {f : Hit α → Text} {t : Text} (within : t.Within Q)
    (each : ∀ hit, .hit hit ∈ p.scan t → (f hit).Within Q) : (p.replace f t).Within Q := by
  have stateless :=
    replaceWith_stateless (f := fun hit (s : Unit) => (f hit, s)) (fun _ => rfl) p t (s := ())
  have result := replaceWith_within (f := fun hit (s : Unit) => (f hit, s)) within
    (fun hit inside _ => each hit inside) ()
  rwa [stateless] at result

/-- Erasing puts nothing in the place of tags, so only characters of the text are left. -/
theorem erase_subset (p : Pattern α) (t : Text) : p.erase t ⊆ t :=
  replace_within (Q := (· ∈ t)) (fun _ inside => inside) fun _ _ => Text.within_nil

end Pattern

/-- A piece of a tag is part of the tag, and a piece that is not there is empty. -/
theorem Shape.piece_subset (pieces : List Text) (n : Nat) : pieces.getD n [] ⊆ pieces.flatten := by
  intro c inside
  rw [List.getD_eq_getElem?_getD] at inside
  cases piece : pieces[n]? with
  | none => simp [piece] at inside
  | some here =>
      rw [piece] at inside
      exact List.mem_flatten.2 ⟨here, List.mem_of_getElem? piece, inside⟩

/-- A piece of a tag is written in the tag. -/
theorem Shape.quotes_pattern {shape : Shape} {n : Nat} {solid : shape.isSolid = true} :
    (shape.pattern (fun pieces => pieces.getD n []) solid).Quotes id := by
  intro t hit rest found
  simp only [Shape.pattern] at found
  split at found
  · exact absurd found (by simp)
  · rename_i pieces after taken
    simp only [Option.some.injEq, Prod.mk.injEq] at found
    rw [← found.1]
    exact piece_subset pieces n

/-- A name is written in its reference, whichever quote marks it stands in. -/
theorem Reference.quotes_named (w : String) : (named w).Quotes id :=
  Shape.quotes_pattern.orElse Shape.quotes_pattern

/-- So is the name of a component, under either of the two words for it. -/
theorem Reference.quotes_includes : includes.Quotes id :=
  (quotes_named _).orElse (quotes_named _)

/-- A key that gets a number is trimmed before, which takes characters off it. -/
theorem IndexedKey.quotes : pattern.Quotes id := by
  intro t hit rest found
  simp only [pattern, Shape.pattern] at found
  split at found
  · exact absurd found (by simp)
  · rename_i pieces after taken
    simp only [Option.some.injEq, Prod.mk.injEq] at found
    rw [← found.1]
    intro c inside
    exact Shape.piece_subset pieces 1 (Text.trim_subset _ inside)

/-- What stands between the braces of a directive that is closed. -/
def Directive.Extent.inner : Extent → Text
  | .closed body => body
  | .unclosed => []

/-- The body of a directive stands between its braces. -/
theorem Directive.quotes_extent : extent.Quotes Extent.inner := by
  intro t hit rest found
  simp only [extent] at found
  split at found
  · exact absurd found (by simp)
  · split at found <;>
    · simp only [Option.some.injEq, Prod.mk.injEq] at found
      rw [← found.1]
      simp [Extent.inner]

/-! ### Loops -/

section Loops

variable {Q : Char → Prop} (ascii : ∀ c : Char, c.toNat < 128 → Q c)

include ascii

/-- A copy gets the digits of its number, and the underscore and the comma of a numbered key. -/
theorem loopCopy_within (index : Nat) {body : Text} (within : body.Within Q) :
    (loopCopy index body).Within Q := by
  have placed : (IndexTag.pattern.replace
      (fun hit => Text.ofNat (hit.value.number index)) body).Within Q :=
    Pattern.replace_within within fun _ _ => Text.within_ofNat ascii _
  refine Pattern.replace_within placed fun hit inside => ?_
  have key : hit.value.Within Q := placed.of_subset (IndexedKey.quotes.subset inside)
  have number := Text.within_ofNat ascii (index + 1)
  simp [IndexedKey.numbered, Directive.opening, key, number, ascii]

/-- Copies of a body follow each other with nothing between them. -/
theorem loopCopies_within (count : Nat) {body : Text} (within : body.Within Q) :
    (loopCopies count body).Within Q := by
  intro c inside
  obtain ⟨index, _, here⟩ := List.mem_flatMap.1 inside
  exact loopCopy_within ascii index within c here

/-- All text that an expansion holds is of a class. -/
structure Expansion.Within (Q : Char → Prop) (expansion : Expansion) : Prop where
  out : expansion.out.Within Q
  blocks : ∀ block ∈ expansion.blocks, block.before.Within Q ∧ block.raw.Within Q

namespace Expansion

omit ascii in
/-- Output is kept in reverse, which is no matter for its characters. -/
theorem Within.emit {expansion : Expansion} (within : expansion.Within Q) {t : Text}
    (added : t.Within Q) : (expansion.emit t).Within Q := by
  refine ⟨?_, within.blocks⟩
  rw [Expansion.emit, List.reverseAux_eq]
  exact Text.within_append.2 ⟨Text.within_reverse.2 added, within.out⟩

/-- A token is put out, or moves text between the output and the open blocks, or closes a block. -/
theorem readToken_within {limit : Nat} {expansion : Expansion} (within : expansion.Within Q)
    {token : Token LoopTag} (raw : token.raw.Within Q) :
    (readToken limit expansion token).Within Q := by
  cases token with
  | plain c =>
      exact ⟨Text.within_cons.2 ⟨raw c (List.mem_singleton_self c), within.out⟩, within.blocks⟩
  | hit hit =>
      obtain ⟨written, tag⟩ := hit
      cases tag with
      | opener argument =>
          exact ⟨Text.within_nil, List.forall_mem_cons.2 ⟨⟨within.out, raw⟩, within.blocks⟩⟩
      | closer =>
          obtain ⟨out, blocks⟩ := expansion
          cases blocks with
          | nil => exact within.emit raw
          | cons block blocks =>
              have opened := List.forall_mem_cons.1 within.blocks
              have body : Text.Within Q out.reverse := Text.within_reverse.2 within.out
              refine Within.emit ⟨opened.1.1, opened.2⟩ ?_
              unfold replacement
              cases copyCount? limit block.argument with
              | some count => exact loopCopies_within ascii count body
              | none =>
                  exact Text.within_append.2 ⟨Text.within_append.2 ⟨opened.1.2, body⟩, raw⟩

omit ascii in
/-- Ending an expansion puts the open blocks back as they were. -/
theorem finish_within {expansion : Expansion} (within : expansion.Within Q) :
    expansion.finish.Within Q := by
  obtain ⟨out, blocks⟩ := expansion
  induction blocks generalizing out with
  | nil => exact Text.within_reverse.2 within.out
  | cons block blocks ih =>
      have opened := List.forall_mem_cons.1 within.blocks
      rw [finish_cons]
      simp only [Text.within_append, Text.within_reverse]
      exact ⟨⟨ih block.before ⟨opened.1.1, opened.2⟩, opened.1.2⟩, within.out⟩

end Expansion

/-- Unfolding loops adds ASCII characters only. -/
theorem unfoldLoops_within (limit : Nat) {t : Text} (within : t.Within Q) :
    (unfoldLoops limit t).Within Q := by
  have raw : ∀ token ∈ LoopTag.pattern.scan t, token.raw.Within Q := fun token inside =>
    within.of_subset (Pattern.raw_subset_of_mem_scan inside)
  have start : Expansion.Within Q ⟨[], []⟩ := ⟨Text.within_nil, by simp⟩
  have read (tokens : List (Token LoopTag)) (raw : ∀ token ∈ tokens, token.raw.Within Q)
      (expansion : Expansion) (sound : expansion.Within Q) :
      (tokens.foldl (Expansion.readToken limit) expansion).Within Q := by
    induction tokens generalizing expansion with
    | nil => exact sound
    | cons token tokens ih =>
        rw [List.forall_mem_cons] at raw
        exact ih raw.2 _ (Expansion.readToken_within ascii sound raw.1)
  exact Expansion.finish_within (read _ raw _ start)

end Loops

/-! ### Runs -/

/-- A marker is an ASCII comment around the name that was refused. -/
theorem Refusal.marker_within {Q : Char → Prop} (ascii : ∀ c : Char, c.toNat < 128 → Q c)
    (refusal : Refusal)
    {name : Text} (within : name.Within Q) : (refusal.marker name).Within Q := by
  have number (n : Nat) := Text.within_ofNat ascii n
  unfold marker
  cases refusal <;> simp [within, number, ascii]

/-- Printing adds only what is written in the values. -/
theorem Resolver.print_within {σ : Type} [Chance σ] {Q : Char → Prop} {resolver : Resolver σ}
    (literal : resolver.IsLiteral (Text.Within Q)) {t : Text} (within : t.Within Q) (s : σ) :
    (resolver.print t s).1.Within Q := by
  rw [print_eq literal]
  refine Pattern.replace_within within fun hit inside => ?_
  have raw : hit.raw.Within Q := within.of_subset (Pattern.raw_subset_of_mem_scan inside)
  have body : hit.value.inner.Within Q := within.of_subset (Directive.quotes_extent.subset inside)
  unfold extentText
  cases extent : hit.value with
  | unclosed => exact raw
  | closed inner =>
      simp only
      split
      · exact raw
      · rw [extent] at body
        refine clauseText_all literal (Text.Within.of_subset body ?_)
        intro c here
        exact Text.trim_subset inner (Directive.clause_subset (Text.trim inner) here)

namespace Assembly

variable {σ : Type} {Q : Char → Prop} (ascii : ∀ c : Char, c.toNat < 128 → Q c) {p : Assembly σ}
  (markups : ∀ name markup, p.loader name = some markup → markup.Within Q) {room : Nat}
  {deeper : List Text → Text → Run σ → Text × Run σ}
  (deep : ∀ chain (t : Text) run, t.Within Q → (deeper chain t run).1.Within Q)

include ascii markups deep

/-- A reference becomes what a nested run puts out, a marker, or stays as it is written. -/
theorem expandReference_within {raw name : Text} {fill : Text → Text} (written : raw.Within Q)
    (named : name.Within Q) (filled : ∀ t : Text, t.Within Q → (fill t).Within Q)
    (chain : List Text)
    (run : Run σ) : (p.expandReference room deeper chain raw name fill run).1.Within Q := by
  unfold expandReference
  cases found : p.loader name with
  | none => exact written
  | some markup =>
      simp only
      cases refusal? p.limits room chain name run.spent with
      | some refusal => exact refusal.marker_within ascii named
      | none => exact deep _ _ _ (filled markup (markups name markup found))

/-- Layouts and components come from markups, and what a layout encloses from the text. -/
theorem placed_within (chain : List Text) {t : Text} (within : t.Within Q) (run : Run σ) :
    (p.placed room deeper chain t run).1.Within Q := by
  have blocks := (Reference.quotes_named "layout").block Reference.layoutCloser
  have filled : (p.fillLayouts room deeper chain t run).1.Within Q := by
    refine Pattern.replaceWith_within within (fun hit inside run => ?_) run
    refine expandReference_within ascii markups deep
      (within.of_subset (Pattern.raw_subset_of_mem_scan inside))
        (within.of_subset (blocks.1.subset inside)) ?_ _ _
    intro layout own
    exact Pattern.replace_within own fun _ _ =>
      within.of_subset (blocks.2.subset inside)
  refine Pattern.replaceWith_within filled (fun hit inside run => ?_) _
  exact expandReference_within ascii markups deep
    (filled.of_subset (Pattern.raw_subset_of_mem_scan inside))
    (filled.of_subset (Reference.quotes_includes.subset inside)) (fun _ own => own) _ _

variable [Chance σ] {mode : Mode} (literal : p.resolver.IsLiteral (Text.Within Q))

include literal

/-- Each pass over a text keeps it in the class, and printing as well where the values are of it. -/
theorem passes_within (chain : List Text) {t : Text} (within : t.Within Q) (run : Run σ) :
    (p.passes mode room deeper chain t run).1.Within Q := by
  rw [passes_eq]
  have placed : (p.placed room deeper chain t run).1.Within Q :=
    placed_within ascii markups deep chain within run
  have unfolded := unfoldLoops_within ascii p.limits.loopIterations placed
  cases mode with
  | conversion => exact unfolded
  | render =>
      simp only [finishText]
      exact Resolver.print_within literal unfolded _

omit deep in
/-- Every character that a run puts out is an ASCII character or stands in its text, a markup or a
value. -/
theorem processBehind_within (room : Nat) (chain : List Text) {t : Text} (within : t.Within Q)
    (run : Run σ) : (p.processBehind mode room chain t run).1.Within Q := by
  induction room generalizing chain t run with
  | zero => exact passes_within ascii markups (fun _ _ _ own => own) literal chain within run
  | succ room ih =>
      have deep (chain : List Text) (t : Text) (run : Run σ) (own : t.Within Q) := ih chain own run
      exact passes_within ascii markups deep literal chain within run

end Assembly

end MailTemplate
