/-
Module: MailTemplate.Proofs.SideBySide
Purpose: Two runs over related documents go side by side.
Main exports: Paired, Leads, SideBySide, SideBySide.processBehind_leads,
  SideBySide.processBehind_finish
-/
import MailTemplate.Proofs.Passes
import MailTemplate.Proofs.Unfolding

/-!
Two assemblies that differ only in what their last pass prints expand the same references in the
same order, as long as the texts that they work on differ only where no structural pass looks.  Such
texts are written as documents whose segments are related one by one, and related segments have the
same role.

Two relations are needed: `ρ` for the segments that a run reads and `τ` for those that it puts out.
What is put out is known to hold no reference that could still be expanded.
-/

namespace MailTemplate

variable {σ : Type} {ρ τ υ : Segment → Segment → Prop}

/-- Two results with related documents and the same state. -/
def Paired (ρ : Segment → Segment → Prop) (one two : Text × Run σ) : Prop :=
  ∃ first second : Document, List.Forall₂ ρ first second ∧ one.1 = first.raw ∧ two.1 = second.raw ∧
    one.2 = two.2

/-- Two passes that lead from related documents and one state to related documents and one state. -/
def Leads (ρ τ : Segment → Segment → Prop) (f g : Text → Run σ → Text × Run σ) : Prop :=
  ∀ first second : Document, List.Forall₂ ρ first second → ∀ run,
    Paired τ (f first.raw run) (g second.raw run)

/-- Steps that lead on from one another lead on together. -/
theorem Leads.comp {f g f' g' : Text → Run σ → Text × Run σ} (one : Leads ρ τ f g)
    (two : Leads τ υ f' g') :
    Leads ρ υ (fun t run => f' (f t run).1 (f t run).2)
      (fun t run => g' (g t run).1 (g t run).2) := by
  intro first second related run
  obtain ⟨middle, middle', between, same, same', state⟩ := one first second related run
  simp only [same, same', state]
  exact two middle middle' between _

/-- Paired results in front of paired results. -/
theorem Paired.append {one two : Text × Run σ} {f g : Run σ → Text × Run σ}
    (front : Paired ρ one two) (behind : ∀ run, Paired ρ (f run) (g run)) :
    Paired ρ (one.1 ++ (f one.2).1, (f one.2).2) (two.1 ++ (g two.2).1, (g two.2).2) := by
  obtain ⟨first, second, related, text, text', state⟩ := front
  obtain ⟨last, last', relatedLast, textLast, textLast', stateLast⟩ := behind two.2
  refine ⟨first ++ last, second ++ last', List.rel_append related relatedLast, ?_, ?_, ?_⟩
  · rw [state, text, textLast, Document.raw_append]
  · rw [text', textLast', Document.raw_append]
  · rw [state]
    exact stateLast

/-- A segment in front of paired results. -/
theorem Paired.cons {a b : Segment} {one two : Text × Run σ} (front : ρ a b)
    (behind : Paired ρ one two) : Paired ρ (a.raw ++ one.1, one.2) (b.raw ++ two.1, two.2) := by
  obtain ⟨first, second, related, text, text', state⟩ := behind
  exact ⟨a :: first, b :: second, .cons front related, by simp [text], by simp [text'], state⟩

/-- A marker holds no braces but those of the name. -/
theorem Refusal.isBraceFree_marker {name : Text} (flat : name.isBraceFree = true)
    (refusal : Refusal) : (refusal.marker name).isBraceFree = true := by
  unfold marker
  cases refusal <;> simp [flat]

/-- What makes two runs with one loader go side by side: `ρ` relates the segments that they read,
`τ` those that they put out. -/
structure SideBySide (loader : Loader) (ρ τ : Segment → Segment → Prop) : Prop where
  narrow : ∀ {a b}, τ a b → ρ a b
  readable : ∀ {a b}, ρ a b → a.IsReadable ∧ b.IsReadable
  role : ∀ {a b}, ρ a b → a.role = b.role
  copy : ∀ {a b}, τ a b → ∀ index, τ (a.copy index) (b.copy index)
  /-- What refers to nothing that could be expanded can be put out. -/
  settled : ∀ {a b}, ρ a b → (∀ name, a.role.reference = some name → loader name = none) → τ a b
  marker : ∀ {a b}, ρ a b → ∀ {name}, a.role.reference = some name ∨ a.role.layout = some name →
    ∀ refusal : Refusal, τ (.text (refusal.marker name)) (.text (refusal.marker name))
  markup : ∀ {name markup}, loader name = some markup →
    ∃ doc : Document, markup = doc.raw ∧ ∀ segment ∈ doc, ρ segment segment

namespace SideBySide

variable {loader : Loader}

/-- Related documents are cut at the same place, if at all. -/
theorem cut_cases (side : SideBySide loader ρ τ) {first second : Document}
    (related : List.Forall₂ ρ first second) :
    (Document.cutAtCloser? first = none ∧ Document.cutAtCloser? second = none) ∨
    ∃ body body' closer closer' after after',
      Document.cutAtCloser? first = some (body, closer, after) ∧
      Document.cutAtCloser? second = some (body', closer', after') ∧
      List.Forall₂ ρ body body' ∧ ρ closer closer' ∧ List.Forall₂ ρ after after' := by
  induction related with
  | nil => exact .inl ⟨rfl, rfl⟩
  | @cons a b first second one related ih =>
      rw [Document.cutAtCloser?, Document.cutAtCloser?, side.role one]
      split
      · exact .inr ⟨[], [], a, b, first, second, rfl, rfl, .nil, one, related⟩
      · rcases ih with ⟨uncut, uncut'⟩ | ⟨body, body', closer, closer', after, after', parts⟩
        · exact .inl ⟨by rw [uncut]; rfl, by rw [uncut']; rfl⟩
        · obtain ⟨cut, cut', bodies, behind⟩ := parts
          exact .inr ⟨a :: body, b :: body', closer, closer', after, after', by rw [cut]; rfl,
            by rw [cut']; rfl, .cons one bodies, behind⟩

/-- The first of two related rows is readable. -/
theorem readable_left (side : SideBySide loader ρ τ) {first second : Document}
    (related : List.Forall₂ ρ first second) : ∀ segment ∈ first, segment.IsReadable := by
  induction related with
  | nil => simp
  | cons one _ ih => simpa [(side.readable one).1] using ih

/-- The second of two related rows is readable. -/
theorem readable_right (side : SideBySide loader ρ τ) {first second : Document}
    (related : List.Forall₂ ρ first second) : ∀ segment ∈ second, segment.IsReadable := by
  induction related with
  | nil => simp
  | cons one _ ih => simpa [(side.readable one).2] using ih

/-- Related bodies fill related layouts alike. -/
theorem filled (side : SideBySide loader ρ τ) {body body' layout layout' : Document}
    (bodies : List.Forall₂ ρ body body') (layouts : List.Forall₂ ρ layout layout') :
    List.Forall₂ ρ (Document.filled body layout) (Document.filled body' layout') := by
  induction layouts with
  | nil => exact .nil
  | @cons a b layout layout' one _ ih =>
      unfold Document.filled at ih ⊢
      rw [List.flatMap_cons, List.flatMap_cons, side.role one]
      split
      · exact List.rel_append bodies ih
      · exact .cons one ih

/-! ### Loops -/

/-- Related segments are alike to loops. -/
theorem loopAlike (side : SideBySide loader ρ τ) : LoopAlike τ where
  tag := fun one => congrArg Role.loop (side.role (side.narrow one))
  copy := fun one index => side.copy one index

/-- Related rows have their loops unfolded segment by segment. -/
theorem unfoldLoops_raw (side : SideBySide loader ρ τ) {first second : Document}
    (related : List.Forall₂ τ first second) (limit : Nat) :
    unfoldLoops limit first.raw = (Document.unfold limit first).raw ∧
      unfoldLoops limit second.raw = (Document.unfold limit second).raw := by
  have read := related.imp fun _ _ one => side.narrow one
  have left segment here := Segment.isFlat_of_isReadable (side.readable_left read segment here)
  have right segment here := Segment.isFlat_of_isReadable (side.readable_right read segment here)
  exact ⟨MailTemplate.unfoldLoops_raw left limit, MailTemplate.unfoldLoops_raw right limit⟩

/-! ### References -/

section Passes

variable {p p' : Assembly σ} {room : Nat} {deeper deeper' : List Text → Text → Run σ → Text × Run σ}
  (side : SideBySide p.loader ρ τ) (loaders : p'.loader = p.loader) (limits : p'.limits = p.limits)
  (deep : room ≠ 0 → ∀ chain, Leads ρ τ (deeper chain) (deeper' chain))

include side loaders limits deep

/-- References with one name are expanded side by side. -/
theorem expandReference_paired {name raw raw' : Text} {fill fill' : Text → Text}
    (put : ∀ {a b}, τ a b → υ a b)
    (missing : p.loader name = none →
      ∃ doc doc' : Document, List.Forall₂ υ doc doc' ∧ raw = doc.raw ∧ raw' = doc'.raw)
    (marker : ∀ refusal : Refusal, υ (.text (refusal.marker name)) (.text (refusal.marker name)))
    (filling : ∀ layout : Document, (∀ segment ∈ layout, ρ segment segment) →
      ∃ doc doc' : Document, List.Forall₂ ρ doc doc' ∧ fill layout.raw = doc.raw ∧
        fill' layout.raw = doc'.raw)
    (chain : List Text) (run : Run σ) :
    Paired υ (p.expandReference room deeper chain raw name fill run)
      (p'.expandReference room deeper' chain raw' name fill' run) := by
  unfold Assembly.expandReference
  rw [loaders, limits]
  cases found : p.loader name with
  | none =>
      obtain ⟨doc, doc', related, rfl, rfl⟩ := missing found
      exact ⟨doc, doc', related, rfl, rfl, rfl⟩
  | some markup =>
      simp only
      cases refused : Assembly.refusal? p.limits room chain name run.spent with
      | some refusal =>
          exact ⟨[.text (refusal.marker name)], [.text (refusal.marker name)],
            .cons (marker refusal) .nil, by simp, by simp, rfl⟩
      | none =>
          have left : room ≠ 0 := by
            rintro rfl
            rcases Assembly.refusal?_cases p.limits 0 chain name run.spent with
              ⟨_, reason⟩ | ⟨_, ⟨_, reason⟩ | ⟨impossible, _⟩⟩
            · simp [reason] at refused
            · simp [reason] at refused
            · exact absurd impossible (Nat.lt_irrefl 0)
          have deep := deep left (chain ++ [name])
          obtain ⟨layout, rfl, own⟩ := side.markup found
          obtain ⟨doc, doc', related, same, same'⟩ := filling layout own
          simp only [same, same']
          obtain ⟨out, out', filled, text, text', state⟩ := deep doc doc' related
            { run.note (.expanded chain name) with spent := run.spent + 1 }
          exact ⟨out, out', filled.imp fun _ _ one => put one, text, text', state⟩

/-- Include directives are placed side by side. -/
theorem placeIncludes_leads (chain : List Text) :
    Leads ρ τ (p.placeIncludes room deeper chain) (p'.placeIncludes room deeper' chain) := by
  intro first second related
  unfold Assembly.placeIncludes
  induction related with
  | nil => exact fun run => ⟨[], [], .nil, rfl, rfl, rfl⟩
  | @cons a b first second one _ ih =>
      intro run
      have reads := Segment.reads_includes (side.readable one).1 (Document.raw first)
      have reads' := Segment.reads_includes (side.readable one).2 (Document.raw second)
      -- Related segments have one role, so both are references to the same name or neither is one.
      have refers : b.role.reference = a.role.reference :=
        congrArg Role.reference (side.role one).symm
      rw [Document.raw_cons, Document.raw_cons]
      cases reference : a.role.reference with
      | none =>
          rw [reference] at refers
          rw [Pattern.tokensOf_of_none reference] at reads
          rw [Pattern.tokensOf_of_none refers] at reads'
          rw [Pattern.replaceWith_of_plain reads, Pattern.replaceWith_of_plain reads']
          exact Paired.cons (side.settled one fun name found => by simp [reference] at found)
            (ih run)
      | some name =>
          rw [reference] at refers
          rw [Pattern.tokensOf_of_some reference, List.singleton_append] at reads
          rw [Pattern.tokensOf_of_some refers, List.singleton_append] at reads'
          rw [Pattern.replaceWith_of_hit reads, Pattern.replaceWith_of_hit reads']
          refine Paired.append (expandReference_paired side loaders limits deep
            (fun put => put) ?_ ?_ ?_ chain run) ih
          · intro missing
            refine ⟨[a], [b], .cons (side.settled one fun other found => ?_) .nil, by simp, by simp⟩
            rw [reference, Option.some.injEq] at found
            exact found ▸ missing
          · exact side.marker one (.inl reference)
          · intro layout own
            exact ⟨layout, layout, List.forall₂_same.2 own, rfl, rfl⟩

/-- A layout block is filled side by side. -/
theorem layoutBlock_paired {a b closer closer' : Segment} {body body' : Document} {name : Text}
    (openers : ρ a b) (bodies : List.Forall₂ ρ body body') (closers : ρ closer closer')
    (opens : a.role.layout = some name) (chain : List Text) (run : Run σ) :
    Paired ρ
      (p.expandReference room deeper chain (a.raw ++ body.raw ++ closer.raw) name
        (fillLayout body.raw) run)
      (p'.expandReference room deeper' chain (b.raw ++ body'.raw ++ closer'.raw) name
        (fillLayout body'.raw) run) := by
  refine expandReference_paired side loaders limits deep side.narrow ?_ ?_ ?_ chain run
  · intro _
    exact ⟨a :: (body ++ [closer]), b :: (body' ++ [closer']),
      .cons openers (List.rel_append bodies (.cons closers .nil)), by simp, by simp⟩
  · intro refusal
    exact side.narrow (side.marker openers (.inr opens) refusal)
  · intro layout own
    have readable := fun segment here => (side.readable (own segment here)).1
    exact ⟨_, _, side.filled bodies (List.forall₂_same.2 own), fillLayout_raw body readable,
      fillLayout_raw body' readable⟩

/-- Layout blocks are filled side by side. -/
theorem fillLayouts_leads (chain : List Text) :
    Leads ρ ρ (p.fillLayouts room deeper chain) (p'.fillLayouts room deeper' chain) := by
  intro first
  unfold Assembly.fillLayouts
  -- A block takes several segments at once, so the induction is on the length.
  induction size : first.length using Nat.strongRecOn generalizing first with
  | ind n ih =>
      intro second related run
      cases related with
      | nil => exact ⟨[], [], .nil, rfl, rfl, rfl⟩
      | @cons a b first second one related =>
          have left := side.readable_left (.cons one related)
          have right := side.readable_right (.cons one related)
          have opens : b.role.layout = a.role.layout := congrArg Role.layout (side.role one).symm
          have passed (plain : a.role.layout = none ∨ Document.cutAtCloser? first = none)
              (plain' : b.role.layout = none ∨ Document.cutAtCloser? second = none) := by
            have behind := ih first.length (by simp [← size]) first rfl second related run
            have front := Paired.cons one behind
            rw [← Pattern.replaceWith_of_plain (Reference.scan_layouts_plain left plain),
              ← Pattern.replaceWith_of_plain (Reference.scan_layouts_plain right plain')] at front
            exact front
          rw [Document.raw_cons, Document.raw_cons]
          rcases side.cut_cases related with ⟨uncut, uncut'⟩ |
            ⟨body, body', closer, closer', after, after', cut, cut', bodies, closers, afters⟩
          · exact passed (.inr uncut) (.inr uncut')
          · cases layout : a.role.layout with
            | none => exact passed (.inl layout) (.inl (opens.trans layout))
            | some name =>
                have block := Reference.scan_layouts_block left layout cut
                have block' := Reference.scan_layouts_block right (opens.trans layout) cut'
                rw [Document.raw_of_cutAtCloser? cut, Document.raw_of_cutAtCloser? cut',
                  Pattern.replaceWith_of_hit block, Pattern.replaceWith_of_hit block']
                have shorter := Document.length_of_cutAtCloser? cut
                rw [List.length_cons] at size
                exact Paired.append
                  (layoutBlock_paired side loaders limits deep one bodies closers layout chain run)
                  (ih after.length (by omega) after rfl after' afters)

/-! ### All passes -/

/-- Expanding layouts and then includes leads from related texts to related ones. -/
theorem placed_leads (chain : List Text) :
    Leads ρ τ (p.placed room deeper chain) (p'.placed room deeper' chain) :=
  (fillLayouts_leads side loaders limits deep chain).comp
    (placeIncludes_leads side loaders limits deep chain)

variable [Chance σ] {mode mode' : Mode}

/-- The last passes of two runs work on related documents in which the loops have been unfolded. -/
theorem passes_finish (chain : List Text) {first second : Document}
    (related : List.Forall₂ ρ first second) (run : Run σ) :
    ∃ (doc doc' : Document) (run' : Run σ), List.Forall₂ τ doc doc' ∧
      p.passes mode room deeper chain first.raw run =
        p.finishText mode (Document.unfold p.limits.loopIterations doc).raw run' ∧
      p'.passes mode' room deeper' chain second.raw run =
        p'.finishText mode' (Document.unfold p.limits.loopIterations doc').raw run' := by
  obtain ⟨doc, doc', placed, text, text', state⟩ :=
    placed_leads side loaders limits deep chain first second related run
  obtain ⟨unfolded, unfolded'⟩ := side.unfoldLoops_raw placed p.limits.loopIterations
  refine ⟨doc, doc', (p.placed room deeper chain first.raw run).2, placed, ?_, ?_⟩
  · rw [← unfolded, ← text, Assembly.passes_eq]
  · rw [← unfolded', ← text', state, ← limits, Assembly.passes_eq]

/-- If finishing leads on, all passes together do. -/
theorem passes_leads (last : Leads τ τ (p.finishText mode) (p'.finishText mode'))
    (chain : List Text) :
    Leads ρ τ (p.passes mode room deeper chain) (p'.passes mode' room deeper' chain) := by
  intro first second related run
  obtain ⟨doc, doc', run', placed, text, text'⟩ :
      ∃ (doc doc' : Document) (run' : Run σ), List.Forall₂ τ doc doc' ∧
        p.passes mode room deeper chain first.raw run = _ ∧
        p'.passes mode' room deeper' chain second.raw run = _ :=
    passes_finish side loaders limits deep chain related run
  rw [text, text']
  exact last _ _ (Document.unfold_related side.loopAlike placed) run'

omit deep

variable (last : Leads τ τ (p.finishText mode) (p'.finishText mode'))

include last

/-- Two runs over related documents go side by side, whatever the chain that leads to them. -/
theorem processBehind_leads (room : Nat) (chain : List Text) :
    Leads ρ τ (p.processBehind mode room chain) (p'.processBehind mode' room chain) := by
  induction room generalizing chain with
  | zero =>
      exact passes_leads side loaders limits (fun impossible => absurd rfl impossible) last chain
  | succ room ih => exact passes_leads side loaders limits (fun _ chain => ih chain) last chain

/-- Behind any chain, related texts come to related ones that are left to be finished. -/
theorem processBehind_finish (room : Nat) (chain : List Text) {first second : Document}
    (related : List.Forall₂ ρ first second) (run : Run σ) :
    ∃ (doc doc' : Document) (run' : Run σ), List.Forall₂ τ doc doc' ∧
      p.processBehind mode room chain first.raw run =
        p.finishText mode (Document.unfold p.limits.loopIterations doc).raw run' ∧
      p'.processBehind mode' room chain second.raw run =
        p'.finishText mode' (Document.unfold p.limits.loopIterations doc').raw run' := by
  cases room with
  | zero =>
      exact passes_finish side loaders limits (fun impossible => absurd rfl impossible) chain
        related run
  | succ room =>
      exact passes_finish side loaders limits
        (fun _ chain => processBehind_leads side loaders limits last room chain) chain related run

end Passes

end SideBySide

end MailTemplate
