/-
Module: MailTemplate.Proofs.Headroom
Purpose: Runs that never meet the include depth or the budget of expansions.
Main exports: Event.meetsLimit, Run.IsUnhindered, Assembly.run_of_unhindered,
  Assembly.process_of_unhindered, Assembly.Loads, Assembly.depth_never_met
-/
import Mathlib.Data.List.Nodup
import Mathlib.Data.List.Perm.Subperm
import MailTemplate.Data.Supply
import MailTemplate.Proofs.Document
import MailTemplate.Proofs.Limits

/-!
The include depth and the budget of expansions show in the result of a run only where a reference is
refused for one of them.  A run in which that never happens goes the same way under wider limits: at
every reference both runs make the same decision, so they stay in lockstep.  Refusals stay in the
record of a run, so it is enough to look at the record at its end.

The include depth cannot be met at all if it is no less than the number of components.  The names on
a chain differ and can all be loaded, so a chain that has the greatest length holds every name, and
a further reference is a cycle.
-/

namespace MailTemplate

variable {σ : Type}

/-! ### Wider limits -/

/-- Whether a reference was refused for one of the limits. -/
def Event.meetsLimit : Event → Bool
  | .refused _ _ (.depth _) => true
  | .refused _ _ (.budget _) => true
  | .refused _ _ .cycle => false
  | .expanded _ _ => false
  | .missing _ _ => false

/-- No reference has been refused for one of the limits. -/
def Run.IsUnhindered (run : Run σ) : Prop :=
  ∀ event ∈ run.events, event.meetsLimit = false

instance (run : Run σ) : Decidable run.IsUnhindered :=
  inferInstanceAs (Decidable (∀ event ∈ run.events, event.meetsLimit = false))

theorem Run.isUnhindered_note {run : Run σ} {event : Event} :
    (run.note event).IsUnhindered ↔ event.meetsLimit = false ∧ run.IsUnhindered :=
  List.forall_mem_cons

/-- Where a step of the first kind has met no limit in the end, none was met before, and the step of
the second kind is the same. -/
def Unaffected (f g : Run σ → Text × Run σ) : Prop :=
  ∀ run, (f run).2.IsUnhindered → run.IsUnhindered ∧ g run = f run

namespace Assembly

section Wider

variable {p : Assembly σ} {wider : Limits} {room room' : Nat}
  {deeper deeper' : List Text → Text → Run σ → Text × Run σ}

/-- What happens at a reference without regard to a limit happens there under wider limits. -/
theorem eventAt_wider (budget : p.limits.expansions ≤ wider.expansions) (rooms : room ≤ room')
    {chain : List Text} {name : Text} {spent : Nat}
    (free : (p.eventAt room chain name spent).meetsLimit = false) :
    { p with limits := wider }.eventAt room' chain name spent =
      p.eventAt room chain name spent := by
  unfold eventAt at free ⊢
  cases loaded : p.loader name with
  | none => rfl
  | some markup =>
      simp only [loaded] at free ⊢
      rcases refusal?_cases p.limits room chain name spent with
        ⟨again, reason⟩ | ⟨fresh, ⟨_, reason⟩ | ⟨left, ⟨_, reason⟩ | ⟨within, reason⟩⟩⟩
      · have still : refusal? wider room' chain name spent = some .cycle := by
          simp [refusal?, again]
        rw [reason, still]
      · rw [reason] at free
        exact absurd free (by simp [Event.meetsLimit])
      · rw [reason] at free
        exact absurd free (by simp [Event.meetsLimit])
      · have roomy : room' ≠ 0 := by omega
        have affordable : ¬ wider.expansions ≤ spent := by omega
        have still : refusal? wider room' chain name spent = none := by
          simp [refusal?, fresh, roomy, affordable]
        rw [reason, still]

theorem expandReference_unaffected (budget : p.limits.expansions ≤ wider.expansions)
    (rooms : room ≤ room')
    (nested : 0 < room → ∀ chain t, Unaffected (deeper chain t) (deeper' chain t))
    (chain : List Text) (raw name : Text) (fill : Text → Text) :
    Unaffected (p.expandReference room deeper chain raw name fill)
      ({ p with limits := wider }.expandReference room' deeper' chain raw name fill) := by
  intro run unhindered
  rw [expandReference_eq] at unhindered
  rw [expandReference_eq, expandReference_eq]
  have same := @eventAt_wider σ p wider room room' budget rooms chain name run.spent
  cases event : p.eventAt room chain name run.spent with
  | expanded behind other =>
      obtain ⟨left, _, _, _⟩ := eventAt_of_isExpansion (by rw [event]; rfl)
      rw [event] at unhindered same
      rw [same rfl]
      obtain ⟨started, lockstep⟩ := nested left _ _ _ unhindered
      exact ⟨(Run.isUnhindered_note.1 started).2, lockstep⟩
  | refused behind other refusal =>
      rw [event] at unhindered same
      obtain ⟨free, started⟩ := Run.isUnhindered_note.1 unhindered
      rw [same free]
      exact ⟨started, rfl⟩
  | missing behind other =>
      rw [event] at unhindered same
      rw [same rfl]
      exact ⟨(Run.isUnhindered_note.1 unhindered).2, rfl⟩

/-- All passes are unaffected by wider limits, if nested runs are. -/
theorem passes_unaffected [Chance σ] (loops : wider.loopIterations = p.limits.loopIterations)
    (budget : p.limits.expansions ≤ wider.expansions) (rooms : room ≤ room')
    (nested : 0 < room → ∀ chain t, Unaffected (deeper chain t) (deeper' chain t)) (mode : Mode)
    (chain : List Text) (t : Text) :
    Unaffected (p.passes mode room deeper chain t)
      ({ p with limits := wider }.passes mode room' deeper' chain t) := by
  intro run unhindered
  have finished : (p.placeIncludes room deeper chain (p.fillLayouts room deeper chain t run).1
      (p.fillLayouts room deeper chain t run).2).2.IsUnhindered := by
    unfold passes finishText at unhindered
    cases mode <;> exact unhindered
  obtain ⟨filled, places⟩ := Pattern.replaceWith_eq_of_last
    (fun hit run => expandReference_unaffected budget rooms nested chain hit.raw hit.value id run)
    (p.fillLayouts room deeper chain t run).1 finished
  obtain ⟨started, fills⟩ := Pattern.replaceWith_eq_of_last
    (fun hit run => expandReference_unaffected budget rooms nested chain hit.raw hit.value.1
      (fillLayout hit.value.2) run) t filled
  refine ⟨started, ?_⟩
  have fills : { p with limits := wider }.fillLayouts room' deeper' chain t run =
      p.fillLayouts room deeper chain t run := fills
  have places : { p with limits := wider }.placeIncludes room' deeper' chain
      (p.fillLayouts room deeper chain t run).1 (p.fillLayouts room deeper chain t run).2 =
      p.placeIncludes room deeper chain (p.fillLayouts room deeper chain t run).1
        (p.fillLayouts room deeper chain t run).2 := places
  simp only [passes, fills, places, loops]
  rfl

theorem processBehind_unaffected [Chance σ] (loops : wider.loopIterations = p.limits.loopIterations)
    (budget : p.limits.expansions ≤ wider.expansions) (rooms : room ≤ room') (mode : Mode)
    (chain : List Text) (t : Text) :
    Unaffected (p.processBehind mode room chain t)
      ({ p with limits := wider }.processBehind mode room' chain t) := by
  induction room generalizing room' chain t with
  | zero =>
      -- Without room there is no nested run to compare.
      have nested (deeper' : List Text → Text → Run σ → Text × Run σ) (left : 0 < 0)
          (chain : List Text) (t : Text) :
          Unaffected (fun run : Run σ => (t, run)) (deeper' chain t) := absurd left (by omega)
      cases room' with
      | zero => exact passes_unaffected loops budget rooms (nested _) mode chain t
      | succ room' => exact passes_unaffected loops budget rooms (nested _) mode chain t
  | succ room ih =>
      obtain ⟨room', rfl⟩ := Nat.exists_eq_add_one.2 (Nat.lt_of_lt_of_le room.succ_pos rooms)
      exact passes_unaffected loops budget rooms
        (fun _ chain t => ih (Nat.le_of_succ_le_succ rooms) chain t) mode chain t

/-- A run that meets no limit goes the same way under wider limits, down to its record. -/
theorem run_of_unhindered [Chance σ] (loops : wider.loopIterations = p.limits.loopIterations)
    (depth : p.limits.includeDepth ≤ wider.includeDepth)
    (budget : p.limits.expansions ≤ wider.expansions) {mode : Mode} {template : Text} {s : σ}
    (unhindered : (p.run mode template s).2.IsUnhindered) :
    { p with limits := wider }.run mode template s = p.run mode template s := by
  have lockstep :=
    (processBehind_unaffected loops budget depth mode [] template (Run.start s) unhindered).2
  simp only [run, lockstep]

end Wider

/-- Limits show only where they are met.  If no reference of a run is refused for the include depth
or the budget, then the same run under limits that are no narrower gives the same text and leaves
the same state. -/
theorem process_of_unhindered [Chance σ] (p : Assembly σ) {wider : Limits}
    (loops : wider.loopIterations = p.limits.loopIterations)
    (depth : p.limits.includeDepth ≤ wider.includeDepth)
    (budget : p.limits.expansions ≤ wider.expansions) {mode : Mode} {template : Text} {s : σ}
    (unhindered : (p.run mode template s).2.IsUnhindered) :
    { p with limits := wider }.process mode template s = p.process mode template s := by
  simp only [process, run_of_unhindered loops depth budget unhindered]

end Assembly

/-- A component that calls, with a number, for another, which calls it back. -/
def callers : Table Text :=
  .ofList [("call".toList, Document.raw [.directive "number".toList,
      .directive "include 'echo'".toList]),
    ("echo".toList, (Segment.directive "include 'call'".toList).raw)]

/-- An assembly of these with room for two names on a chain and for four expansions. -/
def callerAssembly : Assembly Supply where
  loader := callers.get?
  resolver := ⟨Table.empty, .ofList [("number".toList, .generated (.counting 0 ['#']))]⟩
  limits := ⟨2, 10, 4⟩
  inliner := id

/-- A mail that starts with either. -/
def callerMail : Text :=
  Document.raw [.directive "component 'call'".toList, .text " / ".toList,
    .directive "include 'echo'".toList]

/-- More room and a larger budget make no difference to the mail, in which the calls are cut as
cycles. -/
theorem process_of_unhindered_callers :
    (callerAssembly.run .render callerMail (Supply.ofSeed 5)).2.IsUnhindered ∧
    { callerAssembly with limits := ⟨32, 10, 100⟩ }.process .render callerMail (Supply.ofSeed 5) =
      callerAssembly.process .render callerMail (Supply.ofSeed 5) ∧
    callerAssembly.process .render callerMail (Supply.ofSeed 5) =
      ("#1".toList ++ Refusal.cycle.marker "call".toList ++ " / #2".toList ++
        Refusal.cycle.marker "echo".toList, ⟨5, [2]⟩) := by
  have unhindered : (callerAssembly.run .render callerMail (Supply.ofSeed 5)).2.IsUnhindered := by
    decide +kernel
  refine ⟨unhindered, ?_, by decide +kernel⟩
  exact callerAssembly.process_of_unhindered rfl (by decide) (by decide) unhindered

namespace Assembly

/-! ### Room for every component -/

/-- A chain of different names that can all be loaded. -/
structure Loads (p : Assembly σ) (chain : List Text) : Prop where
  distinct : chain.Nodup
  loaded : ∀ name ∈ chain, (p.loader name).isSome

/-- Every event of a run has happened behind a chain of different names that can be loaded. -/
def Grounded (p : Assembly σ) (run : Run σ) : Prop :=
  ∀ event ∈ run.events, p.Loads event.chain

theorem maintains_grounded (p : Assembly σ) :
    p.Maintains p.Grounded fun _ chain => p.Loads chain where
  supplied _ grounded := grounded
  noted {room chain run} name loads grounded _ := by
    refine List.forall_mem_cons.2 ⟨?_, grounded⟩
    rwa [eventAt_chain]
  expanded {room chain run} name loads grounded active := by
    obtain ⟨_, loaded, fresh, _⟩ := eventAt_of_isExpansion active
    refine ⟨List.forall_mem_cons.2 ⟨loads, grounded⟩, ?_, ?_⟩
    · rw [← List.concat_eq_append]
      exact loads.distinct.concat fresh
    · intro other inside
      rcases List.mem_append.1 inside with early | last
      · exact loads.loaded other early
      · rwa [List.mem_singleton.1 last]

/-- A chain that has as many names as there are components holds every one of them. -/
theorem mem_of_loads {p : Assembly σ} {components : Table Text} (memory : p.loader = components.get?)
    {chain : List Text} (loads : p.Loads chain) (full : components.size ≤ chain.length) {name : Text}
    (loaded : (components.get? name).isSome) : name ∈ chain := by
  by_contra fresh
  have distinct : (chain.concat name).Nodup := loads.distinct.concat fresh
  have known : chain.concat name ⊆ components.keys := by
    intro other inside
    rw [List.concat_eq_append] at inside
    rw [Table.mem_keys_iff]
    rcases List.mem_append.1 inside with early | last
    · exact memory ▸ loads.loaded other early
    · rwa [List.mem_singleton.1 last]
  have fits := (List.subperm_of_subset distinct known).length_le
  rw [List.length_concat, Table.keys, List.length_map] at fits
  exact absurd full (Nat.not_le.2 fits)

/-- With room on a chain for every component, the include depth is never met: no reference is
refused for it, and where a chain has its greatest length, a reference to a component is refused
because the component is on the chain. -/
theorem depth_never_met [Chance σ] (p : Assembly σ) {components : Table Text}
    (memory : p.loader = components.get?) (roomy : components.size ≤ p.limits.includeDepth)
    (mode : Mode) (template : Text) (s : σ) :
    (∀ chain name limit,
      .refused chain name (.depth limit) ∉ (p.run mode template s).2.events) ∧
    ∀ event ∈ (p.run mode template s).2.events, (components.get? event.name).isSome →
      event.chain.length = p.limits.includeDepth →
        event.name ∈ event.chain ∧ event = .refused event.chain event.name .cycle := by
  have sound : (p.run mode template s).2.Sound p :=
    processBehind_sound List.nodup_nil (by simp) template (Run.Sound.start p s)
  have start : p.Grounded (Run.start s) := by simp [Grounded, Run.start]
  -- On a chain stand only names with markup, so a full one holds all of them.
  have grounded : p.Grounded (p.run mode template s).2 :=
    processBehind_maintains p.maintains_grounded ⟨List.nodup_nil, by simp⟩ template start
  have on_chain {event : Event} (inside : event ∈ (p.run mode template s).2.events)
      (loaded : (components.get? event.name).isSome)
      (full : event.chain.length = p.limits.includeDepth) : event.name ∈ event.chain :=
    mem_of_loads memory (grounded event inside) (full ▸ roomy) loaded
  constructor
  · intro chain name limit inside
    obtain ⟨earlier, loaded, fresh, full, _⟩ := sound.history.lawful_of_mem inside
    exact fresh (on_chain inside (memory ▸ loaded) full)
  · intro event inside loaded full
    have again := on_chain inside loaded full
    exact ⟨again, (sound.history.cycle_iff inside (memory ▸ loaded)).2 again⟩

end Assembly

/-- With room for both callers no chain gets too long: where it has both names, it is cut as a
cycle. -/
theorem depth_never_met_callers :
    callerAssembly.limits.includeDepth = callers.size ∧
    (∀ chain name limit, .refused chain name (.depth limit) ∉
      (callerAssembly.run .render callerMail (Supply.ofSeed 5)).2.events) ∧
    (∀ event ∈ (callerAssembly.run .render callerMail (Supply.ofSeed 5)).2.events,
      (callers.get? event.name).isSome → event.chain.length = 2 →
        event.name ∈ event.chain ∧ event = .refused event.chain event.name .cycle) ∧
    .refused ["call".toList, "echo".toList] "call".toList .cycle ∈
      (callerAssembly.run .render callerMail (Supply.ofSeed 5)).2.events := by
  have memory : callerAssembly.loader = callers.get? := rfl
  obtain ⟨never, cut⟩ := callerAssembly.depth_never_met memory (by decide) .render callerMail
    (Supply.ofSeed 5)
  exact ⟨by decide, never, cut, by decide +kernel⟩

end MailTemplate
