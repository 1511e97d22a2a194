/-
Module: MailTemplate.Assembly
Purpose: Processing a template: layouts, references, loops and printing, within limits.
Main exports: Limits, Mode, Loader, Refusal, Event, Run, Assembly, Assembly.processBehind, Assembly.process
-/
import MailTemplate.Loop.Expansion
import MailTemplate.Printing
import MailTemplate.Reference

/-!
A run takes a text through layouts, includes, loops and, when it renders, printing.  The markup of a
component or layout goes through the same passes before it is put in its place.  Styles are inlined once,
on the whole result.

What stops a run from growing without end:

* a component that is named again on its own chain of references is not expanded;
* no chain is longer than the include depth;
* no run expands more references than its budget.

In place of a reference that is refused stands a comment that says why.  A reference to markup that cannot
be found stays as it is written.  The tests are made in this order: found, cycle, depth, budget.

The recursion is on the room left: how many names the chain may still get.
-/

namespace MailTemplate

/-- Bounds on what a run may do. -/
structure Limits where
  /-- The longest chain of references. -/
  includeDepth : Nat := 32
  /-- The largest number of copies that a loop may ask for. -/
  loopIterations : Nat := 1000
  /-- The number of references that one run may expand. -/
  expansions : Nat := 10000
deriving Repr, Inhabited, DecidableEq

/-- What a run is for. -/
inductive Mode where
  /-- All passes: the result can be shown. -/
  | render
  /-- All passes but printing: the result still holds its print directives. -/
  | conversion
deriving Repr, Inhabited, DecidableEq

/-- Finds the markup of a name. -/
abbrev Loader := Text → Option Text

/-- Why a reference is not expanded. -/
inductive Refusal where
  /-- The name is on the chain already. -/
  | cycle
  /-- The chain has its greatest length. -/
  | depth (limit : Nat)
  /-- The run has used up its expansions. -/
  | budget (limit : Nat)
deriving Repr, Inhabited, DecidableEq

/-- The comment that stands in place of a refused reference. -/
def Refusal.marker (refusal : Refusal) (name : Text) : Text :=
  match refusal with
  | .cycle => "<!-- include cycle detected at '".toList ++ name ++ "' -->".toList
  | .depth limit =>
      "<!-- include depth limit (".toList ++ Text.ofNat limit ++ ") exceeded at '".toList ++ name ++
        "' -->".toList
  | .budget limit =>
      "<!-- include expansion budget (".toList ++ Text.ofNat limit ++ ") exhausted at '".toList ++ name ++
        "' -->".toList

/-- What happened at a reference, with the chain that led to it. -/
inductive Event where
  | expanded (chain : List Text) (name : Text)
  | refused (chain : List Text) (name : Text) (refusal : Refusal)
  | missing (chain : List Text) (name : Text)
deriving Repr, Inhabited, DecidableEq

/-- The state of a run: how many references it has expanded, what happened at references, the latest first,
and the state that values are produced from. -/
structure Run (σ : Type) where
  spent : Nat
  events : List Event
  supply : σ
deriving Repr, Inhabited, DecidableEq

namespace Run

variable {σ : Type}

/-- A run that has done nothing. -/
def start (supply : σ) : Run σ := ⟨0, [], supply⟩

/-- Notes an event. -/
def note (run : Run σ) (event : Event) : Run σ :=
  { run with events := event :: run.events }

end Run

/-- All that a run depends on besides its template. -/
structure Assembly (σ : Type) where
  loader : Loader
  resolver : Resolver σ
  limits : Limits
  inliner : Text → Text

namespace Assembly

variable {σ : Type}

/-- Why a name with markup is not to be expanded behind a chain with `room` left, if it is not. -/
def refusal? (limits : Limits) (room : Nat) (chain : List Text) (name : Text) (spent : Nat) :
    Option Refusal :=
  if chain.contains name then some .cycle
  else if room = 0 then some (.depth limits.includeDepth)
  else if limits.expansions ≤ spent then some (.budget limits.expansions)
  else none

/-- The tests in their order: cycle, depth, budget. -/
theorem refusal?_cases (limits : Limits) (room : Nat) (chain : List Text) (name : Text)
    (spent : Nat) :
    (name ∈ chain ∧ refusal? limits room chain name spent = some .cycle) ∨
    name ∉ chain ∧
      ((room = 0 ∧ refusal? limits room chain name spent = some (.depth limits.includeDepth)) ∨
      0 < room ∧
        ((limits.expansions ≤ spent ∧
          refusal? limits room chain name spent = some (.budget limits.expansions)) ∨
        spent < limits.expansions ∧ refusal? limits room chain name spent = none)) := by
  by_cases again : name ∈ chain
  · exact .inl ⟨again, by simp [refusal?, again]⟩
  · refine .inr ⟨again, ?_⟩
    rcases Nat.eq_zero_or_pos room with full | left
    · exact .inl ⟨full, by simp [refusal?, again, full]⟩
    · refine .inr ⟨left, ?_⟩
      have nonzero : room ≠ 0 := Nat.ne_of_gt left
      rcases Nat.lt_or_ge spent limits.expansions with within | used
      · exact .inr ⟨within, by simp [refusal?, again, nonzero, within]⟩
      · exact .inl ⟨used, by simp [refusal?, again, nonzero, used]⟩

/-- What a reference written `raw` is replaced by.  `fill` makes the text to process from the markup, and
`deeper` processes it behind the longer chain. -/
def expandReference (p : Assembly σ) (room : Nat)
    (deeper : List Text → Text → Run σ → Text × Run σ) (chain : List Text) (raw name : Text)
    (fill : Text → Text) (run : Run σ) : Text × Run σ :=
  match p.loader name with
  | none => (raw, run.note (.missing chain name))
  | some markup =>
      match refusal? p.limits room chain name run.spent with
      | some refusal => (refusal.marker name, run.note (.refused chain name refusal))
      | none =>
          deeper (chain ++ [name]) (fill markup)
            { run.note (.expanded chain name) with spent := run.spent + 1 }

/-- A text with its layout blocks expanded. -/
def fillLayouts (p : Assembly σ) (room : Nat) (deeper : List Text → Text → Run σ → Text × Run σ)
    (chain : List Text) (t : Text) (run : Run σ) : Text × Run σ :=
  Reference.layouts.replaceWith
    (fun hit => p.expandReference room deeper chain hit.raw hit.value.1 (fillLayout hit.value.2)) t run

/-- A text with its include and component directives expanded. -/
def placeIncludes (p : Assembly σ) (room : Nat) (deeper : List Text → Text → Run σ → Text × Run σ)
    (chain : List Text) (t : Text) (run : Run σ) : Text × Run σ :=
  Reference.includes.replaceWith
    (fun hit => p.expandReference room deeper chain hit.raw hit.value id) t run

/-- The last pass: a rendering run prints. -/
def finishText [Chance σ] (p : Assembly σ) (mode : Mode) (t : Text) (run : Run σ) : Text × Run σ :=
  match mode with
  | .render =>
      let (t, supply) := p.resolver.print t run.supply
      (t, { run with supply })
  | .conversion => (t, run)

/-- All passes over a text that was reached through a chain of names. -/
def passes [Chance σ] (p : Assembly σ) (mode : Mode) (room : Nat)
    (deeper : List Text → Text → Run σ → Text × Run σ) (chain : List Text) (t : Text) (run : Run σ) :
    Text × Run σ :=
  let (t, run) := p.fillLayouts room deeper chain t run
  let (t, run) := p.placeIncludes room deeper chain t run
  p.finishText mode (unfoldLoops p.limits.loopIterations t) run

/-- Processes a text behind a chain that may get `room` more names. -/
def processBehind [Chance σ] (p : Assembly σ) (mode : Mode) :
    Nat → List Text → Text → Run σ → Text × Run σ
  | 0, chain, t, run => p.passes mode 0 (fun _ t run => (t, run)) chain t run
  | room + 1, chain, t, run =>
      p.passes mode (room + 1) (fun chain t run => p.processBehind mode room chain t run) chain t run

/-- A run over a template, and the state it ends in. -/
def run [Chance σ] (p : Assembly σ) (mode : Mode) (template : Text) (supply : σ) : Text × Run σ :=
  let (t, run) := p.processBehind mode p.limits.includeDepth [] template (Run.start supply)
  (p.inliner t, run)

/-- The result of a run over a template, and the state that further values are produced from. -/
def process [Chance σ] (p : Assembly σ) (mode : Mode) (template : Text) (supply : σ) : Text × σ :=
  let (t, run) := p.run mode template supply
  (t, run.supply)

end Assembly

end MailTemplate
