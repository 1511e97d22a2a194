/-
Module: MailTemplate.Proofs.Passes
Purpose: The passes of a run one by one, and texts in which there is nothing to expand.
Main exports: Assembly.placed, Assembly.passes_eq, Assembly.process_text, Run.Idles,
  Assembly.processBehind_missing, Assembly.processBehind_of_inert
-/
import MailTemplate.Assembly
import MailTemplate.Proofs.Role

/-!
A run first fills layouts and places references, and then unfolds loops and prints.  On a text that
refers to nothing that can be found, the first two passes change nothing but the record of the run.
-/

namespace MailTemplate

variable {σ : Type}

namespace Assembly

/-- A text with its layout blocks and include directives expanded. -/
def placed (p : Assembly σ) (room : Nat) (deeper : List Text → Text → Run σ → Text × Run σ)
    (chain : List Text) (t : Text) (run : Run σ) : Text × Run σ :=
  let filled := p.fillLayouts room deeper chain t run
  p.placeIncludes room deeper chain filled.1 filled.2

/-- After the references come loops and then printing. -/
theorem passes_eq [Chance σ] (p : Assembly σ) (mode : Mode) (room : Nat)
    (deeper : List Text → Text → Run σ → Text × Run σ) (chain : List Text) (t : Text)
    (run : Run σ) :
    p.passes mode room deeper chain t run =
      p.finishText mode (unfoldLoops p.limits.loopIterations (p.placed room deeper chain t run).1)
        (p.placed room deeper chain t run).2 := rfl

/-- Without inlining, a run's result is what its outermost passes put out. -/
theorem process_text [Chance σ] {p : Assembly σ} (inlining : p.inliner = id) (mode : Mode)
    (template : Text) (s : σ) : (p.process mode template s).1 =
      (p.processBehind mode p.limits.includeDepth [] template (Run.start s)).1 := by
  simp only [process, run, inlining, id]

/-! ### References to nothing -/

end Assembly

/-- Whether nothing has happened since `start` but references, behind a chain, to markup that cannot
be found. -/
structure Run.Idles (chain : List Text) (start run : Run σ) : Prop where
  spent : run.spent = start.spent
  supply : run.supply = start.supply
  events : ∃ names : List Text, run.events = names.map (.missing chain) ++ start.events

namespace Run.Idles

variable {chain : List Text} {start run : Run σ}

theorem refl (chain : List Text) (run : Run σ) : Idles chain run run :=
  ⟨rfl, rfl, [], rfl⟩

/-- Noting that markup is missing spends nothing. -/
theorem note (idle : Idles chain start run) (name : Text) :
    Idles chain start (run.note (.missing chain name)) := by
  obtain ⟨names, events⟩ := idle.events
  exact ⟨idle.spent, idle.supply, name :: names, congrArg (Event.missing chain name :: ·) events⟩

end Run.Idles

namespace Assembly

section Missing

variable {p : Assembly σ} {room : Nat} {deeper : List Text → Text → Run σ → Text × Run σ}
  {chain : List Text} {t : Text} {start run : Run σ}

/-- A reference to nothing is put back. -/
theorem expandReference_missing {name : Text} (missing : p.loader name = none) (raw : Text)
    (fill : Text → Text) (idle : Run.Idles chain start run) :
    (p.expandReference room deeper chain raw name fill run).1 = raw ∧
      Run.Idles chain start (p.expandReference room deeper chain raw name fill run).2 := by
  simp only [expandReference, missing, true_and]
  exact idle.note name

/-- Layouts that cannot be found stay as they are written. -/
theorem fillLayouts_missing
    (layouts : ∀ hit ∈ Reference.layouts.hits t, p.loader hit.value.1 = none)
    (idle : Run.Idles chain start run) :
    (p.fillLayouts room deeper chain t run).1 = t ∧
      Run.Idles chain start (p.fillLayouts room deeper chain t run).2 := by
  unfold fillLayouts
  refine Pattern.replaceWith_self (fun hit inside run idle => ?_) idle
  exact expandReference_missing (layouts hit inside) hit.raw (fillLayout hit.value.2) idle

/-- So do components that cannot be found. -/
theorem placeIncludes_missing
    (includes : ∀ hit ∈ Reference.includes.hits t, p.loader hit.value = none)
    (idle : Run.Idles chain start run) :
    (p.placeIncludes room deeper chain t run).1 = t ∧
      Run.Idles chain start (p.placeIncludes room deeper chain t run).2 := by
  unfold placeIncludes
  refine Pattern.replaceWith_self (fun hit inside run idle => ?_) idle
  exact expandReference_missing (includes hit inside) hit.raw id idle

/-- Without any markup to be found, a text keeps all its references. -/
theorem placed_missing
    (layouts : ∀ hit ∈ Reference.layouts.hits t, p.loader hit.value.1 = none)
    (includes : ∀ hit ∈ Reference.includes.hits t, p.loader hit.value = none)
    (chain : List Text) (run : Run σ) :
    (p.placed room deeper chain t run).1 = t ∧
      Run.Idles chain run (p.placed room deeper chain t run).2 := by
  have filled : (p.fillLayouts room deeper chain t run).1 = t ∧
      Run.Idles chain run (p.fillLayouts room deeper chain t run).2 :=
    fillLayouts_missing layouts (Run.Idles.refl chain run)
  rw [placed, filled.1]
  exact placeIncludes_missing includes filled.2

/-- With references to nothing, a run unfolds loops and prints. -/
theorem processBehind_missing [Chance σ]
    (layouts : ∀ hit ∈ Reference.layouts.hits t, p.loader hit.value.1 = none)
    (includes : ∀ hit ∈ Reference.includes.hits t, p.loader hit.value = none) (mode : Mode)
    (room : Nat) (chain : List Text) (run : Run σ) :
    ∃ run' : Run σ, Run.Idles chain run run' ∧ p.processBehind mode room chain t run =
      p.finishText mode (unfoldLoops p.limits.loopIterations t) run' := by
  cases room with
  | zero =>
      rw [processBehind, passes_eq, (placed_missing layouts includes chain run).1]
      exact ⟨_, (placed_missing layouts includes chain run).2, rfl⟩
  | succ room =>
      rw [processBehind, passes_eq, (placed_missing layouts includes chain run).1]
      exact ⟨_, (placed_missing layouts includes chain run).2, rfl⟩

end Missing

/-! ### Nothing to expand -/

/-- Whether a segment opens no layout and refers to nothing that a loader finds. -/
def Inert (loader : Loader) (segment : Segment) : Prop :=
  segment.IsReadable ∧ segment.role.layout = none ∧
    ∀ name, segment.role.reference = some name → loader name = none

theorem inert_text {loader : Loader} {t : Text} (flat : t.isBraceFree = true) :
    Inert loader (.text t) :=
  ⟨flat, rfl, by simp⟩

/-- A directive that prints a value and is no loop tag is inert. -/
theorem inert_of_not_silent {loader : Loader} {body : Text} (flat : body.isBraceFree = true)
    (speaks : Directive.isSilent body = false) (plain : LoopTag.pattern.valueOf? body = none) :
    Inert loader (.directive body) := by
  have role := Segment.role_of_not_silent flat speaks plain
  refine ⟨⟨flat, fun silent => ?_⟩, by rw [role], by simp [role]⟩
  rw [silent] at speaks
  exact absurd speaks (by simp)

/-- A directive is inert if its first word names no layout or component. -/
theorem inert_of_headWord {loader : Loader} {body : Text} (flat : body.isBraceFree = true)
    (closed : Directive.closesQuotes body = true)
    (other : Text.headWord body ∉ ["layout", "include", "component"].map String.toList) :
    Inert loader (.directive body) := by
  have absent {w : String} (known : w.toList ∈ Directive.argumentWords)
      (listed : w.toList ∈ ["layout", "include", "component"].map String.toList) :
      (Reference.named w).valueOf? body = none := by
    cases read : (Reference.named w).valueOf? body with
    | none => rfl
    | some name =>
        rw [Reference.headWord_of_named known flat (fun _ => closed) read] at other
        exact absurd listed other
  have reference : (Segment.directive body).role.reference = none := by
    change Reference.includes.valueOf? body = none
    rw [Reference.includes, Pattern.valueOf?_orElse, absent (by decide) (by decide),
      absent (by decide) (by decide)]
    rfl
  exact ⟨⟨flat, fun _ => closed⟩, absent (by decide) (by decide), by simp [reference]⟩

variable {loader : Loader} {doc : Document}

/-- Inert segments begin no layout. -/
theorem hits_layouts_of_inert (inert : ∀ segment ∈ doc, Inert loader segment) :
    Reference.layouts.hits doc.raw = [] := by
  induction doc with
  | nil => rfl
  | cons segment doc ih =>
      have readable : ∀ other ∈ segment :: doc, other.IsReadable :=
        fun other here => (inert other here).1
      have plain := Reference.scan_layouts_plain readable
        (.inl (inert segment List.mem_cons_self).2.1)
      rw [Document.raw_cons, Pattern.hits_of_plain plain]
      exact ih fun other here => inert other (List.mem_cons_of_mem _ here)

/-- What inert segments refer to cannot be found. -/
theorem missing_of_inert (inert : ∀ segment ∈ doc, Inert loader segment) :
    ∀ hit ∈ Reference.includes.hits doc.raw, loader hit.value = none := by
  intro hit inside
  have reads : ∀ segment ∈ doc, Reference.includes.Reads segment :=
    fun segment here => Segment.reads_includes (inert segment here).1
  obtain ⟨segment, here, named⟩ := Pattern.exists_of_mem_hits reads inside
  exact (inert segment here).2.2 hit.value named

/-- Where there is nothing to expand, a run unfolds loops and prints. -/
theorem processBehind_of_inert [Chance σ] {p : Assembly σ}
    (inert : ∀ segment ∈ doc, Inert p.loader segment)
    (mode : Mode) (room : Nat) (chain : List Text) (run : Run σ) :
    ∃ run' : Run σ, p.processBehind mode room chain doc.raw run =
      p.finishText mode (unfoldLoops p.limits.loopIterations doc.raw) run' := by
  have layouts : ∀ hit ∈ Reference.layouts.hits doc.raw, p.loader hit.value.1 = none := by
    rw [hits_layouts_of_inert inert]
    simp
  obtain ⟨run', _, result⟩ :=
    processBehind_missing layouts (missing_of_inert inert) mode room chain run
  exact ⟨run', result⟩

end Assembly

end MailTemplate
