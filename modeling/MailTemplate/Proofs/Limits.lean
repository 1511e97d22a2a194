/-
Module: MailTemplate.Proofs.Limits
Purpose: What the limits of a run hold it to, whatever the template, the loader and the data are.
Main exports: Event.Lawful, History, Run.Sound, Assembly.processBehind_maintains,
  Assembly.processBehind_sound, Assembly.run_keeps_limits
-/
import MailTemplate.Data.Supply
import MailTemplate.Proofs.Trace

/-!
A run notes what happens at every reference it meets, so what the limits promise can be said of the
list of events.  `Event.Lawful` says which event may follow which events; a `History` is a list in
which every event is lawful.  One reference adds one lawful event, and perhaps those of a nested
run, so the events of a whole run are a history.  That these are the events of all that the run
does, nested runs and markers included, is what it means that the run performs its template.

The recursion carries one more fact: the names on a chain differ, and with the room that is left
they make up the greatest include depth.  `Assembly.Maintains` is what has to be shown of a single
reference so that whole runs keep a property.
-/

namespace MailTemplate

namespace Event

/-- Whether a reference was expanded. -/
def isExpansion : Event → Bool
  | .expanded .. => true
  | .refused .. => false
  | .missing .. => false

/-- The chain that led to the reference. -/
def chain : Event → List Text
  | .expanded chain _ => chain
  | .refused chain _ _ => chain
  | .missing chain _ => chain

/-- The name that the reference gives. -/
def name : Event → Text
  | .expanded _ name => name
  | .refused _ name _ => name
  | .missing _ name => name

/-- Whether an event may follow earlier ones. -/
def Lawful (loader : Loader) (limits : Limits) (earlier : List Event) : Event → Prop
  | .expanded chain name =>
      (loader name).isSome ∧ (chain ++ [name]).Nodup ∧
        (chain ++ [name]).length ≤ limits.includeDepth ∧
        earlier.countP isExpansion < limits.expansions
  | .refused chain name .cycle => (loader name).isSome ∧ name ∈ chain
  | .refused chain name (.depth limit) =>
      (loader name).isSome ∧ name ∉ chain ∧ chain.length = limits.includeDepth ∧
        limit = limits.includeDepth
  | .refused chain name (.budget limit) =>
      (loader name).isSome ∧ name ∉ chain ∧ earlier.countP isExpansion = limits.expansions ∧
        limit = limits.expansions
  | .missing _ name => loader name = none

/-- What a reference is replaced by at an event, and the run behind it; `text` is what a nested run
would process. -/
def outcome {σ : Type} (deeper : List Text → Text → Run σ → Text × Run σ) (raw text : Text)
    (run : Run σ) : Event → Text × Run σ
  | .expanded chain name =>
      deeper (chain ++ [name]) text { run.note (.expanded chain name) with spent := run.spent + 1 }
  | .refused chain name refusal => (refusal.marker name, run.note (.refused chain name refusal))
  | .missing chain name => (raw, run.note (.missing chain name))

end Event

/-- A reference that is not expanded is only noted. -/
theorem Event.outcome_run {σ : Type} {event : Event} (idle : event.isExpansion = false)
    (deeper : List Text → Text → Run σ → Text × Run σ) (raw text : Text) (run : Run σ) :
    (event.outcome deeper raw text run).2 = run.note event := by
  cases event with
  | expanded chain name => exact absurd idle (by simp [isExpansion])
  | refused chain name refusal => rfl
  | missing chain name => rfl

/-- There are as many nested runs as expansions. -/
theorem length_calls (events : List Event) :
    (calls events).length = events.countP Event.isExpansion := by
  have same : (fun event => (Event.call? event).isSome) = Event.isExpansion := by
    funext event
    cases event <;> rfl
  rw [calls, List.length_filterMap_eq_countP, same]

/-- A nested run gets the chain of the reference that is expanded, and its name. -/
theorem mem_calls_iff {events : List Event} {call : List Text} : call ∈ calls events ↔
    ∃ chain name, .expanded chain name ∈ events ∧ call = chain ++ [name] := by
  rw [calls, List.mem_filterMap]
  constructor
  · rintro ⟨event, inside, made⟩
    cases event with
    | expanded chain name => exact ⟨chain, name, inside, (Option.some.inj made).symm⟩
    | refused chain name refusal => exact absurd made (by simp [Event.call?])
    | missing chain name => exact absurd made (by simp [Event.call?])
  · rintro ⟨chain, name, inside, rfl⟩
    exact ⟨_, inside, rfl⟩

/-- Events of which each, from the last in the list on, may follow those before it. -/
inductive History (loader : Loader) (limits : Limits) : List Event → Prop where
  | nil : History loader limits []
  | cons {event : Event} {earlier : List Event} (lawful : event.Lawful loader limits earlier)
      (history : History loader limits earlier) : History loader limits (event :: earlier)

namespace History

variable {loader : Loader} {limits : Limits}

/-- Every event of a history may follow the events behind it in the list. -/
theorem lawful_of_split {later earlier : List Event} {event : Event}
    (history : History loader limits (later ++ event :: earlier)) :
    event.Lawful loader limits earlier := by
  induction later with
  | nil =>
      cases history with
      | cons lawful _ => exact lawful
  | cons _ later ih =>
      cases history with
      | cons _ history => exact ih history

/-- Every event of a history was lawful when it happened. -/
theorem lawful_of_mem {events : List Event} {event : Event} (history : History loader limits events)
    (inside : event ∈ events) : ∃ earlier, event.Lawful loader limits earlier := by
  obtain ⟨later, earlier, rfl⟩ := List.append_of_mem inside
  exact ⟨earlier, history.lawful_of_split⟩

/-- A history has no more expansions than the limits allow. -/
theorem expansions_le {events : List Event} (history : History loader limits events) :
    events.countP Event.isExpansion ≤ limits.expansions := by
  induction history with
  | nil => exact Nat.zero_le _
  | @cons event earlier lawful _ ih =>
      cases event with
      | expanded chain name =>
          obtain ⟨_, _, _, within⟩ := lawful
          rw [List.countP_cons_of_pos rfl]
          exact within
      | refused chain name refusal => rwa [List.countP_cons_of_neg (by simp [Event.isExpansion])]
      | missing chain name => rwa [List.countP_cons_of_neg (by simp [Event.isExpansion])]

/-- A name with markup is refused as a cycle exactly where it stands on its chain. -/
theorem cycle_iff {events : List Event} {event : Event} (history : History loader limits events)
    (inside : event ∈ events) (loaded : (loader event.name).isSome) :
    event = .refused event.chain event.name .cycle ↔ event.name ∈ event.chain := by
  obtain ⟨earlier, lawful⟩ := history.lawful_of_mem inside
  cases event with
  | expanded chain name =>
      obtain ⟨_, distinct, _⟩ := lawful
      have fresh : name ∉ chain := fun again =>
        (List.nodup_append.1 distinct).2.2 name again name (by simp) rfl
      simpa [Event.chain, Event.name] using fresh
  | missing chain name =>
      simp only [Event.Lawful] at lawful
      simp [Event.name, lawful] at loaded
  | refused chain name refusal =>
      cases refusal with
      | cycle => simpa [Event.chain, Event.name] using lawful.2
      | depth limit => simpa [Event.chain, Event.name] using lawful.2.1
      | budget limit => simpa [Event.chain, Event.name] using lawful.2.1

end History

namespace Run

variable {σ : Type}

/-- What is true of a run at any moment: its events are a history, and it has spent one expansion
for each reference it expanded. -/
structure Sound (p : Assembly σ) (run : Run σ) : Prop where
  history : History p.loader p.limits run.events
  spent_eq : run.spent = run.events.countP Event.isExpansion

/-- A run that has done nothing is sound. -/
theorem Sound.start (p : Assembly σ) (supply : σ) : (Run.start supply).Sound p :=
  ⟨.nil, rfl⟩

/-- Noting a lawful event keeps a run sound. -/
theorem Sound.note {p : Assembly σ} {run : Run σ} {event : Event} (sound : run.Sound p)
    (lawful : event.Lawful p.loader p.limits run.events) (idle : event.isExpansion = false) :
    (run.note event).Sound p where
  history := .cons lawful sound.history
  spent_eq := by
    simp only [Run.note]
    rw [List.countP_cons_of_neg (by simp [idle]), sound.spent_eq]

/-- Noting a lawful expansion and counting it keeps a run sound. -/
theorem Sound.expand {p : Assembly σ} {run : Run σ} {event : Event} (sound : run.Sound p)
    (lawful : event.Lawful p.loader p.limits run.events) (active : event.isExpansion = true) :
    Sound p { run.note event with spent := run.spent + 1 } where
  history := .cons lawful sound.history
  spent_eq := by
    simp only [Run.note]
    rw [List.countP_cons_of_pos active, sound.spent_eq]

end Run

namespace Assembly

variable {σ : Type}

/-- The event at a reference behind a chain with `room` left. -/
def eventAt (p : Assembly σ) (room : Nat) (chain : List Text) (name : Text) (spent : Nat) : Event :=
  match p.loader name with
  | none => .missing chain name
  | some _ =>
      match refusal? p.limits room chain name spent with
      | some refusal => .refused chain name refusal
      | none => .expanded chain name

/-- An event is noted with the chain it happens behind. -/
theorem eventAt_chain (p : Assembly σ) (room : Nat) (chain : List Text) (name : Text)
    (spent : Nat) : (p.eventAt room chain name spent).chain = chain := by
  unfold eventAt
  split
  · rfl
  · split <;> rfl

/-- An event is noted with the name it is about. -/
theorem eventAt_name (p : Assembly σ) (room : Nat) (chain : List Text) (name : Text) (spent : Nat) :
    (p.eventAt room chain name spent).name = name := by
  unfold eventAt
  split
  · rfl
  · split <;> rfl

/-- What a reference is replaced by is the outcome of its event, and of nothing else. -/
theorem expandReference_eq (p : Assembly σ) (room : Nat)
    (deeper : List Text → Text → Run σ → Text × Run σ) (chain : List Text) (raw name : Text)
    (fill : Text → Text) (run : Run σ) :
    p.expandReference room deeper chain raw name fill run =
      (p.eventAt room chain name run.spent).outcome deeper raw
        (fill ((p.loader name).getD [])) run := by
  unfold expandReference eventAt
  cases p.loader name with
  | none => rfl
  | some markup =>
      simp only
      cases refusal? p.limits room chain name run.spent <;> rfl

/-- Behind a chain of different names that has the right room left, the next event is lawful. -/
theorem eventAt_lawful {p : Assembly σ} {room : Nat} {chain : List Text} {run : Run σ}
    (distinct : chain.Nodup) (depth : chain.length + room = p.limits.includeDepth)
    (sound : run.Sound p) (name : Text) :
    (p.eventAt room chain name run.spent).Lawful p.loader p.limits run.events := by
  unfold eventAt
  cases loaded : p.loader name with
  | none => exact loaded
  | some markup =>
      have isSome : (p.loader name).isSome := by rw [loaded]; rfl
      have within := sound.history.expansions_le
      rcases refusal?_cases p.limits room chain name run.spent with
        ⟨again, reason⟩ | ⟨fresh, ⟨full, reason⟩ | ⟨left, ⟨used, reason⟩ | ⟨free, reason⟩⟩⟩
      · simp only [reason]
        exact ⟨isSome, again⟩
      · simp only [reason]
        exact ⟨isSome, fresh, by omega, rfl⟩
      · simp only [reason]
        -- What a sound run has spent is the number of expansions on its record.
        rw [sound.spent_eq] at used
        exact ⟨isSome, fresh, by omega, rfl⟩
      · simp only [reason]
        rw [sound.spent_eq] at free
        refine ⟨isSome, ?_, ?_, free⟩
        · rw [List.nodup_append]
          refine ⟨distinct, by simp, fun one inside other last same => fresh ?_⟩
          rw [List.mem_singleton] at last
          rwa [← last, ← same]
        · rw [List.length_append, List.length_singleton]
          omega

/-- A reference that is expanded names markup, which is new to its chain, and leaves room for the
longer chain. -/
theorem eventAt_of_isExpansion {p : Assembly σ} {room : Nat} {chain : List Text} {name : Text}
    {spent : Nat} (active : (p.eventAt room chain name spent).isExpansion = true) :
    0 < room ∧ (p.loader name).isSome ∧ name ∉ chain ∧
      p.eventAt room chain name spent = .expanded chain name := by
  unfold eventAt at active ⊢
  cases found : p.loader name with
  | none => simp [found, Event.isExpansion] at active
  | some markup =>
      simp only [found] at active ⊢
      rcases refusal?_cases p.limits room chain name spent with
        ⟨_, reason⟩ | ⟨fresh, ⟨_, reason⟩ | ⟨left, ⟨_, reason⟩ | ⟨_, reason⟩⟩⟩
      · simp [reason, Event.isExpansion] at active
      · simp [reason, Event.isExpansion] at active
      · simp [reason, Event.isExpansion] at active
      · exact ⟨left, rfl, fresh, by rw [reason]⟩

/-- Every event at a reference keeps `kept` true of the run.  `fit` says which chains may lead
there, by the room that they have left, and an expansion makes no others. -/
structure Maintains (p : Assembly σ) (kept : Run σ → Prop) (fit : Nat → List Text → Prop) :
    Prop where
  supplied : ∀ {run : Run σ} (supply : σ), kept run → kept { run with supply }
  noted : ∀ {room : Nat} {chain : List Text} {run : Run σ} (name : Text),
    fit room chain → kept run → (p.eventAt room chain name run.spent).isExpansion = false →
      kept (run.note (p.eventAt room chain name run.spent))
  expanded : ∀ {room : Nat} {chain : List Text} {run : Run σ} (name : Text),
    fit (room + 1) chain → kept run →
      (p.eventAt (room + 1) chain name run.spent).isExpansion = true →
        kept { run.note (.expanded chain name) with spent := run.spent + 1 } ∧
          fit room (chain ++ [name])

section Maintains

variable {p : Assembly σ} {kept : Run σ → Prop} {fit : Nat → List Text → Prop} {room : Nat}
  {deeper : List Text → Text → Run σ → Text × Run σ} {chain : List Text} {run : Run σ}

/-- One reference keeps what its event and the nested run keep. -/
theorem expandReference_maintains (maintains : p.Maintains kept fit)
    (nested : ∀ left, room = left + 1 → ∀ chain t (run : Run σ), fit left chain → kept run →
      kept (deeper chain t run).2)
    (fits : fit room chain) (raw name : Text) (fill : Text → Text) (holds : kept run) :
    kept (p.expandReference room deeper chain raw name fill run).2 := by
  rw [expandReference_eq]
  cases active : (p.eventAt room chain name run.spent).isExpansion with
  | false =>
      rw [Event.outcome_run active]
      exact maintains.noted name fits holds active
  | true =>
      obtain ⟨room_pos, _, _, event⟩ := eventAt_of_isExpansion active
      obtain ⟨left, rfl⟩ := Nat.exists_eq_add_one.2 room_pos
      obtain ⟨still, longer⟩ := maintains.expanded name fits holds active
      rw [event]
      exact nested left rfl _ _ _ longer still

/-- All passes maintain what nested runs and single references maintain. -/
theorem passes_maintains [Chance σ] {mode : Mode} (maintains : p.Maintains kept fit)
    (nested : ∀ left, room = left + 1 → ∀ chain t (run : Run σ), fit left chain → kept run →
      kept (deeper chain t run).2)
    (fits : fit room chain) (t : Text) (holds : kept run) :
    kept (p.passes mode room deeper chain t run).2 := by
  have filled : kept (p.fillLayouts room deeper chain t run).2 :=
    Pattern.replaceWith_preserves
      (fun hit _ => expandReference_maintains maintains nested fits hit.raw hit.value.1 _) t holds
  have placed := Pattern.replaceWith_preserves (p := Reference.includes)
      (fun hit _ => expandReference_maintains maintains nested fits hit.raw hit.value id)
      (p.fillLayouts room deeper chain t run).1 filled
  unfold passes finishText
  cases mode with
  | conversion => exact placed
  | render => exact maintains.supplied _ placed

/-- What single references maintain, a whole run maintains. -/
theorem processBehind_maintains [Chance σ] {mode : Mode} (maintains : p.Maintains kept fit)
    (fits : fit room chain) (t : Text) (holds : kept run) :
    kept (p.processBehind mode room chain t run).2 := by
  induction room generalizing chain t run with
  | zero =>
      exact passes_maintains maintains (fun left spent => absurd spent (by omega)) fits t holds
  | succ room ih =>
      refine passes_maintains maintains (fun left same chain t run fits holds => ?_) fits t holds
      obtain rfl := Nat.add_right_cancel same
      exact ih fits t holds

end Maintains

/-- Runs stay sound behind chains of different names with the right room left. -/
theorem maintains_sound (p : Assembly σ) : p.Maintains (·.Sound p) fun room chain =>
    chain.Nodup ∧ chain.length + room = p.limits.includeDepth where
  supplied _ sound := ⟨sound.history, sound.spent_eq⟩
  noted name fits sound idle := sound.note (eventAt_lawful fits.1 fits.2 sound name) idle
  expanded {room chain run} name fits sound active := by
    have lawful := eventAt_lawful fits.1 fits.2 sound name
    obtain ⟨_, _, _, event⟩ := eventAt_of_isExpansion active
    rw [event] at lawful
    obtain ⟨_, depth⟩ := fits
    exact ⟨sound.expand lawful rfl, lawful.2.1,
      by rw [List.length_append, List.length_singleton]; omega⟩

/-- Processing keeps a run sound behind a chain of different names, where chain and room make up the
limit. -/
theorem processBehind_sound [Chance σ] {p : Assembly σ} {mode : Mode} {room : Nat}
    {chain : List Text} (distinct : chain.Nodup)
    (depth : chain.length + room = p.limits.includeDepth) (t : Text) {run : Run σ}
    (sound : run.Sound p) : (p.processBehind mode room chain t run).2.Sound p :=
  processBehind_maintains p.maintains_sound ⟨distinct, depth⟩ t sound

/-- The limits hold in every run.  It performs its template with events of which

* the nested runs are no more than the budget;
* a chain that a nested run gets has no name twice and is no longer than the include depth;
* a reference to a name with markup is a cycle exactly where the name is on its chain already;
* a reference is refused for the depth behind a chain of the greatest length only, and for the
  budget only where exactly as many nested runs as the budget allows have begun before.

What the events put into the text, markers and results of nested runs, is said by the rules of
`Performs`. -/
theorem run_keeps_limits [Chance σ] (p : Assembly σ) (mode : Mode) (template : Text) (supply : σ) :
    ∃ events out last,
      p.Performs mode (.text [] template) supply events out last ∧
      p.process mode template supply = (p.inliner out, last) ∧
      (p.run mode template supply).2.events = events.reverse ∧
      (calls events).length ≤ p.limits.expansions ∧
      (∀ call ∈ calls events, call.Nodup ∧ call.length ≤ p.limits.includeDepth) ∧
      (∀ event ∈ events, (p.loader event.name).isSome →
        (event = .refused event.chain event.name .cycle ↔ event.name ∈ event.chain)) ∧
      (∀ chain name limit, .refused chain name (.depth limit) ∈ events →
        chain.length = p.limits.includeDepth ∧ limit = p.limits.includeDepth) ∧
      (∀ earlier chain name limit later,
        events = earlier ++ .refused chain name (.budget limit) :: later →
          (calls earlier).length = p.limits.expansions ∧ limit = p.limits.expansions) := by
  obtain ⟨events, out, last, performs, processed, noted⟩ := p.run_performs mode template supply
  have sound : (p.run mode template supply).2.Sound p :=
    processBehind_sound List.nodup_nil (by simp) template (Run.Sound.start p supply)
  -- The record holds the latest event first, and the rules tell them in the order of time.
  have history : History p.loader p.limits events.reverse := noted ▸ sound.history
  refine ⟨events, out, last, performs, processed, noted, ?_, ?_, ?_, ?_, ?_⟩
  · rw [length_calls, ← List.countP_reverse]
    exact history.expansions_le
  · intro call made
    obtain ⟨chain, name, inside, rfl⟩ := mem_calls_iff.1 made
    obtain ⟨_, lawful⟩ := history.lawful_of_mem (List.mem_reverse.2 inside)
    exact ⟨lawful.2.1, lawful.2.2.1⟩
  · intro event inside loaded
    exact history.cycle_iff (List.mem_reverse.2 inside) loaded
  · intro chain name limit inside
    obtain ⟨_, lawful⟩ := history.lawful_of_mem (List.mem_reverse.2 inside)
    exact lawful.2.2
  · rintro earlier chain name limit later rfl
    rw [List.reverse_append, List.reverse_cons, List.append_assoc, List.singleton_append]
      at history
    have lawful := history.lawful_of_split.2.2
    rwa [List.countP_reverse, ← length_calls] at lawful

end Assembly

/-- A list that names itself, and an item. -/
def listMarkups : Table Text :=
  .ofList [("list".toList, (Segment.directive "include 'list'".toList).raw ++ ", ".toList ++
      (Segment.directive "include 'item'".toList).raw),
    ("item".toList, "one".toList)]

/-- An assembly of these that may expand one reference. -/
def listAssembly : Assembly Supply where
  loader := listMarkups.get?
  resolver := ⟨Table.empty, Table.empty⟩
  limits := ⟨2, 10, 1⟩
  inliner := id

/-- In the list, the list is cut as a cycle, and then the budget is used up. -/
theorem run_keeps_limits_list :
    ∃ events out last,
      listAssembly.Performs .render (.text [] (Segment.directive "include 'list'".toList).raw)
        (Supply.ofSeed 1) events out last ∧
      out = "<!-- include cycle detected at 'list' -->, ".toList ++
        "<!-- include expansion budget (1) exhausted at 'item' -->".toList ∧
      events = [.expanded [] "list".toList, .refused ["list".toList] "list".toList .cycle,
        .refused ["list".toList] "item".toList (.budget 1)] ∧
      calls events = [["list".toList]] ∧ (calls events).length ≤ listAssembly.limits.expansions ∧
      (calls (events.take 2)).length = listAssembly.limits.expansions := by
  obtain ⟨events, out, last, performs, processed, noted, within, _, _, _, exhausted⟩ :=
    listAssembly.run_keeps_limits .render (Segment.directive "include 'list'".toList).raw
      (Supply.ofSeed 1)
  have order : events = [.expanded [] "list".toList,
      .refused ["list".toList] "list".toList .cycle,
      .refused ["list".toList] "item".toList (.budget 1)] := by
    rw [← List.reverse_reverse events, ← noted]
    decide +kernel
  refine ⟨events, out, last, performs, ?_, order, by rw [order]; rfl, within, ?_⟩
  · exact (congrArg Prod.fst processed).symm.trans (by decide +kernel)
  · rw [order] at exhausted ⊢
    exact (exhausted [_, _] _ _ _ [] rfl).1

end MailTemplate
