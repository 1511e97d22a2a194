/-
Module: MailTemplate.Proofs.Trace
Purpose: What a run does at each reference, told step by step and apart from how it is computed.
Main exports: Site, Pass.read?, Job, Assembly.Performs, Event.call?, calls,
  Assembly.processBehind_carries, Assembly.run_performs
-/
import MailTemplate.Assembly
import MailTemplate.Proofs.Scan

/-!
A job is either a text with all passes before it or the references of one pass in a text.
`Assembly.Performs` says how a job is done, in rules that know neither room nor count: which event
each reference is, what stands in its place, and which further job an expansion begins.  An
expansion is the only rule with a nested run, which gets the chain of the reference and the name
behind it, so the expansions among the events of a job are its nested runs.

The rules do not say when a reference is refused.  That is what the limits are about.
-/

namespace MailTemplate

/-! ### References as a pass finds them -/

/-- A reference: what it is written with, the name it gives, and the text that a nested run gets
from the markup. -/
structure Site where
  raw : Text
  name : Text
  fill : Text → Text

/-- A pass that expands references. -/
inductive Pass where
  | layouts
  | includes
deriving Repr, DecidableEq

/-- The site at the head of a layout block. -/
def Site.ofLayout (hit : Hit (Text × Text)) : Site :=
  ⟨hit.raw, hit.value.1, fillLayout hit.value.2⟩

/-- The site of an include or component directive. -/
def Site.ofInclude (hit : Hit Text) : Site :=
  ⟨hit.raw, hit.value, id⟩

/-- Reads a reference at the head of a text. -/
def Pass.read? : Pass → Text → Option (Site × Text)
  | .layouts, t => (Reference.layouts.read t).map fun found => (Site.ofLayout found.1, found.2)
  | .includes, t => (Reference.includes.read t).map fun found => (Site.ofInclude found.1, found.2)

/-! ### Nested runs -/

/-- The chain that a nested run gets at an event, if the event makes one. -/
def Event.call? : Event → Option (List Text)
  | .expanded chain name => some (chain ++ [name])
  | .refused .. => none
  | .missing .. => none

/-- The chains that nested runs get, in the order in which these begin. -/
def calls (events : List Event) : List (List Text) :=
  events.filterMap Event.call?

/-! ### How a job is done -/

/-- What is to be done behind a chain of names. -/
inductive Job where
  /-- All passes over a text. -/
  | text (chain : List Text) (t : Text)
  /-- One pass over the references in a text. -/
  | references (pass : Pass) (chain : List Text) (t : Text)

namespace Assembly

variable {σ : Type} [Chance σ]

/-- What becomes of a text without references: loops are unfolded, and a rendering run prints. -/
def finished (p : Assembly σ) (mode : Mode) (t : Text) (s : σ) : Text × σ :=
  match mode with
  | .render => p.resolver.print (unfoldLoops p.limits.loopIterations t) s
  | .conversion => (unfoldLoops p.limits.loopIterations t, s)

/-- A job is performed: from one state of supply to another, with events in the order of time, and
with a text for a result. -/
inductive Performs (p : Assembly σ) (mode : Mode) : Job → σ → List Event → Text → σ → Prop where
  /-- A text has its layouts expanded, then the includes in what this gives, then it is finished. -/
  | text {chain : List Text} {t filled placed out : Text} {s s₁ s₂ s₃ : σ}
      {first second : List Event}
      (layouts : Performs p mode (.references .layouts chain t) s first filled s₁)
      (includes : Performs p mode (.references .includes chain filled) s₁ second placed s₂)
      (finish : p.finished mode placed s₂ = (out, s₃)) :
      Performs p mode (.text chain t) s (first ++ second) out s₃
  | done {pass : Pass} {chain : List Text} {s : σ} :
      Performs p mode (.references pass chain []) s [] [] s
  /-- A character at which no reference begins stays. -/
  | plain {pass : Pass} {chain : List Text} {c : Char} {t out : Text} {s s₁ : σ}
      {events : List Event} (unread : pass.read? (c :: t) = none)
      (later : Performs p mode (.references pass chain t) s events out s₁) :
      Performs p mode (.references pass chain (c :: t)) s events (c :: out) s₁
  /-- A reference to a name without markup stays as it is written. -/
  | missing {pass : Pass} {chain : List Text} {t rest out : Text} {site : Site} {s s₁ : σ}
      {events : List Event} (read : pass.read? t = some (site, rest))
      (unknown : p.loader site.name = none)
      (later : Performs p mode (.references pass chain rest) s events out s₁) :
      Performs p mode (.references pass chain t) s (.missing chain site.name :: events)
        (site.raw ++ out) s₁
  | cycle {pass : Pass} {chain : List Text} {t rest out : Text} {site : Site} {s s₁ : σ}
      {events : List Event} (read : pass.read? t = some (site, rest))
      (known : (p.loader site.name).isSome = true)
      (later : Performs p mode (.references pass chain rest) s events out s₁) :
      Performs p mode (.references pass chain t) s (.refused chain site.name .cycle :: events)
        ("<!-- include cycle detected at '".toList ++ site.name ++ "' -->".toList ++ out) s₁
  | depth {pass : Pass} {chain : List Text} {t rest out : Text} {site : Site} {s s₁ : σ}
      {events : List Event} (limit : Nat) (read : pass.read? t = some (site, rest))
      (known : (p.loader site.name).isSome = true)
      (later : Performs p mode (.references pass chain rest) s events out s₁) :
      Performs p mode (.references pass chain t) s
        (.refused chain site.name (.depth limit) :: events)
        ("<!-- include depth limit (".toList ++ Text.ofNat limit ++ ") exceeded at '".toList ++
          site.name ++ "' -->".toList ++ out) s₁
  | budget {pass : Pass} {chain : List Text} {t rest out : Text} {site : Site} {s s₁ : σ}
      {events : List Event} (limit : Nat) (read : pass.read? t = some (site, rest))
      (known : (p.loader site.name).isSome = true)
      (later : Performs p mode (.references pass chain rest) s events out s₁) :
      Performs p mode (.references pass chain t) s
        (.refused chain site.name (.budget limit) :: events)
        ("<!-- include expansion budget (".toList ++ Text.ofNat limit ++ ") exhausted at '".toList ++
          site.name ++ "' -->".toList ++ out) s₁
  /-- An expansion is one nested run over the markup, behind the longer chain, and what it gives
  stands in place of the reference. -/
  | expanded {pass : Pass} {chain : List Text} {t rest markup put out : Text} {site : Site}
      {s s₁ s₂ : σ} {inner events : List Event} (read : pass.read? t = some (site, rest))
      (known : p.loader site.name = some markup)
      (nested : Performs p mode (.text (chain ++ [site.name]) (site.fill markup)) s inner put s₁)
      (later : Performs p mode (.references pass chain rest) s₁ events out s₂) :
      Performs p mode (.references pass chain t) s
        (.expanded chain site.name :: (inner ++ events)) (put ++ out) s₂

/-- The marker of a refusal stands in place of the reference. -/
theorem Performs.refused {p : Assembly σ} {mode : Mode} {pass : Pass} {chain : List Text}
    {t rest out : Text} {site : Site} {s s₁ : σ} {events : List Event} (refusal : Refusal)
    (read : pass.read? t = some (site, rest)) (known : (p.loader site.name).isSome = true)
    (later : p.Performs mode (.references pass chain rest) s events out s₁) :
    p.Performs mode (.references pass chain t) s (.refused chain site.name refusal :: events)
      (refusal.marker site.name ++ out) s₁ := by
  cases refusal with
  | cycle => exact .cycle read known later
  | depth limit => exact .depth limit read known later
  | budget limit => exact .budget limit read known later

/-! ### Runs -/

/-- A run carries a job out: it performs the job, and notes the events on top of those before. -/
def Carries (p : Assembly σ) (mode : Mode) (job : Job) (run : Run σ) (result : Text × Run σ) :
    Prop :=
  ∃ events, p.Performs mode job run.supply events result.1 result.2.supply ∧
    result.2.events = events.reverse ++ run.events

/-- Finishing changes nothing of a run but the supply. -/
theorem finishText_eq (p : Assembly σ) (mode : Mode) (placed : Text × Run σ) :
    p.finishText mode (unfoldLoops p.limits.loopIterations placed.1) placed.2 =
      ((p.finished mode placed.1 placed.2.supply).1,
        { placed.2 with supply := (p.finished mode placed.1 placed.2.supply).2 }) := by
  cases mode <;> rfl

section Carries

variable {p : Assembly σ} {mode : Mode} {room : Nat} {chain : List Text}
  {deeper : List Text → Text → Run σ → Text × Run σ}
  (nested : ∀ left, room = left + 1 → ∀ chain t (run : Run σ),
    p.Carries mode (.text chain t) run (deeper chain t run))

include nested

/-- One reference, and then the rest of the text. -/
theorem expandReference_carries {pass : Pass} {t rest : Text} {site : Site}
    (read : pass.read? t = some (site, rest)) (run : Run σ) {behind : Run σ → Text × Run σ}
    (later : ∀ run, p.Carries mode (.references pass chain rest) run (behind run)) :
    let placed := p.expandReference room deeper chain site.raw site.name site.fill run
    p.Carries mode (.references pass chain t) run
      (placed.1 ++ (behind placed.2).1, (behind placed.2).2) := by
  cases loaded : p.loader site.name with
  | none =>
      obtain ⟨events, performs, noted⟩ := later (run.note (.missing chain site.name))
      simp only [expandReference, loaded]
      exact ⟨_, .missing read loaded performs, by simpa [Run.note] using noted⟩
  | some markup =>
      have known : (p.loader site.name).isSome = true := by rw [loaded]; rfl
      cases reason : refusal? p.limits room chain site.name run.spent with
      | some refusal =>
          obtain ⟨events, performs, noted⟩ := later (run.note (.refused chain site.name refusal))
          simp only [expandReference, loaded, reason]
          exact ⟨_, .refused refusal read known performs, by simpa [Run.note] using noted⟩
      | none =>
          -- What is not refused has room, so `nested` tells of its run.
          have positive : 0 < room := by
            rcases refusal?_cases p.limits room chain site.name run.spent with
              ⟨_, other⟩ | ⟨_, ⟨_, other⟩ | ⟨left, _⟩⟩
            · exact absurd (reason.symm.trans other) (by simp)
            · exact absurd (reason.symm.trans other) (by simp)
            · exact left
          obtain ⟨left, same⟩ := Nat.exists_eq_add_one.2 positive
          obtain ⟨inner, within, first⟩ := nested left same (chain ++ [site.name])
            (site.fill markup)
            { run.note (.expanded chain site.name) with spent := run.spent + 1 }
          obtain ⟨events, performs, noted⟩ := later _
          simp only [expandReference, loaded, reason]
          refine ⟨_, .expanded read loaded within performs, ?_⟩
          rw [noted, first]
          simp [Run.note]

/-- A pass is a replacement of its references, one after another. -/
theorem replaceWith_carries {α : Type} {pattern : Pattern α} {pass : Pass} (site : Hit α → Site)
    (reads : ∀ t, pass.read? t = (pattern.read t).map fun found => (site found.1, found.2))
    (t : Text) (run : Run σ) :
    p.Carries mode (.references pass chain t) run
      (pattern.replaceWith (fun hit =>
        p.expandReference room deeper chain (site hit).raw (site hit).name (site hit).fill)
        t run) := by
  induction t using pattern.scan_induction generalizing run with
  | nil => exact ⟨[], .done, rfl⟩
  | plain c t unread ih =>
      obtain ⟨events, performs, noted⟩ := ih run
      rw [Pattern.replaceWith_of_not_read unread]
      exact ⟨events, .plain (by rw [reads, unread]; rfl) performs, noted⟩
  | hit t found rest read ih =>
      rw [Pattern.replaceWith_of_read read]
      exact expandReference_carries nested (by rw [reads, read]; rfl) run ih

theorem fillLayouts_carries (chain : List Text) (t : Text) (run : Run σ) :
    p.Carries mode (.references .layouts chain t) run (p.fillLayouts room deeper chain t run) :=
  replaceWith_carries nested .ofLayout (fun _ => rfl) t run

theorem placeIncludes_carries (chain : List Text) (t : Text) (run : Run σ) :
    p.Carries mode (.references .includes chain t) run (p.placeIncludes room deeper chain t run) :=
  replaceWith_carries nested .ofInclude (fun _ => rfl) t run

/-- All passes over a text, one after another. -/
theorem passes_carries (t : Text) (run : Run σ) :
    p.Carries mode (.text chain t) run (p.passes mode room deeper chain t run) := by
  obtain ⟨first, layouts, before⟩ := fillLayouts_carries nested chain t run
  rw [passes]
  generalize p.fillLayouts room deeper chain t run = filled at layouts before ⊢
  obtain ⟨second, includes, after⟩ := placeIncludes_carries nested chain filled.1 filled.2
  dsimp only
  generalize p.placeIncludes room deeper chain filled.1 filled.2 = placed at includes after ⊢
  rw [finishText_eq]
  exact ⟨first ++ second, .text layouts includes rfl, by simp [before, after]⟩

end Carries

/-- Processing a text behind a chain carries the text out. -/
theorem processBehind_carries (p : Assembly σ) (mode : Mode) (room : Nat) (chain : List Text)
    (t : Text) (run : Run σ) :
    p.Carries mode (.text chain t) run (p.processBehind mode room chain t run) := by
  -- A nested run has less room, so the induction is on the room.
  induction room generalizing chain t run with
  | zero => exact passes_carries (fun left full => absurd full (by simp)) t run
  | succ room ih =>
      refine passes_carries (fun left same chain t run => ?_) t run
      obtain rfl := Nat.add_right_cancel same
      exact ih chain t run

/-- A run performs its template, and what it notes are the events of that, the latest first. -/
theorem run_performs (p : Assembly σ) (mode : Mode) (template : Text) (supply : σ) :
    ∃ events out last, p.Performs mode (.text [] template) supply events out last ∧
      p.process mode template supply = (p.inliner out, last) ∧
      (p.run mode template supply).2.events = events.reverse := by
  obtain ⟨events, performs, noted⟩ :=
    p.processBehind_carries mode p.limits.includeDepth [] template (Run.start supply)
  exact ⟨events, _, _, performs, rfl, by simpa [Assembly.run, Run.start] using noted⟩

end Assembly

end MailTemplate
