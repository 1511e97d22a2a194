/-
Module: MailTemplate.Proofs.FailOpen
Purpose: What a run leaves as it is written: references to nothing, and loops that cannot be
  unfolded.
Main exports: Expansion.finish_readToken, unfoldLoops_uncounted, Assembly.process_missing
-/
import Mathlib.Data.List.Induction
import MailTemplate.Data.Supply
import MailTemplate.Proofs.LoopLines
import MailTemplate.Proofs.Passes

/-!
Processing a text never fails.  A reference to markup that cannot be found stays as it is written,
and so does a loop without a closer or without a count.  However the references and loops of a text
overlap, nest and break off, what a pass has cut out of it is put back in its place.
-/

namespace MailTemplate

/-! ### Loops that cannot be unfolded -/

namespace Expansion

/-- Reading a token adds it to the output if it closes no block with a count. -/
theorem finish_readToken {limit : Nat} {expansion : Expansion} {token : Token LoopTag}
    (uncounted : ∀ raw block blocks, token = .hit ⟨raw, .closer⟩ →
      expansion.blocks = block :: blocks → copyCount? limit block.argument = none) :
    (expansion.readToken limit token).finish = expansion.finish ++ token.raw := by
  obtain ⟨out, blocks⟩ := expansion
  match token with
  | .plain c => exact finish_emit [c] ⟨out, blocks⟩
  | .hit ⟨raw, .opener argument⟩ =>
      rw [readToken, finish_cons, List.reverse_nil, List.append_nil]
      rfl
  | .hit ⟨raw, .closer⟩ =>
      cases blocks with
      | nil => exact finish_emit raw ⟨out, []⟩
      | cons block blocks =>
          have uncounted := uncounted raw block blocks rfl rfl
          rw [readToken, finish_emit, finish_cons]
          simp only [replacement, uncounted, List.append_assoc]
          rfl

end Expansion

/-- The loop tags of a text, with those of a block among them. -/
theorem LoopBlock.tags_eq {t : Text} (block : LoopBlock t) : ∃ before body after,
    (LoopTag.pattern.hits t).map Hit.value =
      before ++ .opener block.argument :: (body ++ .closer :: after) := by
  rw [Pattern.hits, block.scan]
  simp only [List.filterMap_append, List.filterMap_cons, List.map_append, List.map_cons]
  exact ⟨_, _, _, rfl⟩

/-- A text of whose openers none has both a closer and a count stays as it is. -/
theorem unfoldLoops_uncounted {limit : Nat} {t : Text}
    (uncounted : ∀ block : LoopBlock t, copyCount? limit block.argument = none) :
    unfoldLoops limit t = t := by
  -- The induction is on the tokens read so far: what has been put out is their text.
  have read (first last : List (Token LoopTag)) (scan : LoopTag.pattern.scan t = first ++ last) :
      (first.foldl (Expansion.readToken limit) ⟨[], []⟩).finish = first.flatMap Token.raw := by
    induction first using List.reverseRecOn generalizing last with
    | nil => rfl
    | append_singleton first token ih =>
        rw [List.append_assoc] at scan
        rw [List.foldl_append, List.foldl_cons, List.foldl_nil, List.flatMap_append,
          ← ih _ scan, Expansion.finish_readToken]
        · simp
        · rintro raw block blocks rfl stack
          obtain ⟨loop, _, argument, _⟩ := LoopBlock.exists_of_closer scan stack
          rw [← argument]
          exact uncounted loop
  have whole := read (LoopTag.pattern.scan t) [] (List.append_nil _).symm
  rwa [Pattern.scan_flatMap_raw] at whole

/-! ### Runs -/

/-- A run on a text that refers to nothing that can be found unfolds loops and prints, and expands
nothing.  If no loop of the text can be unfolded either, its preparation is the text. -/
theorem Assembly.process_missing {σ : Type} [Chance σ] (p : Assembly σ) (inlining : p.inliner = id)
    {t : Text} (layouts : ∀ hit ∈ Reference.layouts.hits t, p.loader hit.value.1 = none)
    (includes : ∀ hit ∈ Reference.includes.hits t, p.loader hit.value = none) (s : σ) :
    p.process .conversion t s = (unfoldLoops p.limits.loopIterations t, s) ∧
      p.process .render t s = p.resolver.print (unfoldLoops p.limits.loopIterations t) s ∧
      (∀ mode, (p.run mode t s).2.spent = 0 ∧
        ∃ names : List Text, (p.run mode t s).2.events = names.map (.missing [])) ∧
      ((∀ block : LoopBlock t, copyCount? p.limits.loopIterations block.argument = none) →
        unfoldLoops p.limits.loopIterations t = t ∧ p.process .conversion t s = (t, s)) := by
  have behind (mode : Mode) := processBehind_missing layouts includes mode p.limits.includeDepth []
    (Run.start s)
  have prepared : p.process .conversion t s = (unfoldLoops p.limits.loopIterations t, s) := by
    obtain ⟨run, idle, result⟩ := behind .conversion
    have supply : run.supply = s := idle.supply
    simp only [process, Assembly.run, result, finishText, inlining, id, supply]
  refine ⟨prepared, ?_, fun mode => ?_, fun uncounted => ?_⟩
  · obtain ⟨run, idle, result⟩ := behind .render
    have supply : run.supply = s := idle.supply
    simp only [process, Assembly.run, result, finishText, inlining, id, supply]
  · obtain ⟨run, idle, result⟩ := behind mode
    obtain ⟨names, events⟩ := idle.events
    have noted : run.events = names.map (.missing []) := events.trans (List.append_nil _)
    cases mode <;>
    · simp only [Assembly.run, result, finishText]
      exact ⟨idle.spent, names, noted⟩
  · have same := unfoldLoops_uncounted uncounted
    exact ⟨same, by rw [prepared, same]⟩

/-- An assembly with a component of which no mail speaks. -/
def footerAssembly : Assembly Supply where
  loader name := if name = "footer".toList then some "Bye".toList else none
  resolver := ⟨Table.empty, Table.empty⟩
  limits := {}
  inliner := id

/-- A mail with a layout and a component that cannot be found, a loop without a count, a loop without
a closer, and a reference that breaks off. -/
def brokenMail : Text :=
  Document.raw [.directive "layout 'frame'".toList, .directive "include 'card'".toList,
    .directive "loop many".toList, .directive "_index".toList, .directive "/loop".toList,
    .directive "/layout".toList, .directive "loop 2".toList] ++
      Directive.opening ++ "include 'footer".toList

theorem process_missing_brokenMail :
    (Reference.layouts.hits brokenMail).length = 1 ∧
      (Reference.includes.hits brokenMail).length = 1 ∧
      footerAssembly.process .conversion brokenMail (Supply.ofSeed 1) =
        (brokenMail, Supply.ofSeed 1) := by
  have layouts : ∀ hit ∈ Reference.layouts.hits brokenMail,
      footerAssembly.loader hit.value.1 = none := by decide +kernel
  have includes : ∀ hit ∈ Reference.includes.hits brokenMail,
      footerAssembly.loader hit.value = none := by decide +kernel
  have tags : (LoopTag.pattern.hits brokenMail).map Hit.value =
      [.opener "many".toList, .closer, .opener "2".toList] := by decide +kernel
  have uncounted (block : LoopBlock brokenMail) :
      copyCount? footerAssembly.limits.loopIterations block.argument = none := by
    obtain ⟨before, body, after, among⟩ := block.tags_eq
    rw [tags] at among
    rcases before with _ | ⟨first, _ | ⟨second, _ | ⟨third, before⟩⟩⟩
    · obtain ⟨same, _⟩ := List.cons.inj among
      rw [← LoopTag.opener.inj same]
      decide +kernel
    · simp at among
    · -- Behind the second opener there is no closer.
      simp at among
    · simp at among
  have broken := Assembly.process_missing footerAssembly rfl layouts includes (Supply.ofSeed 1)
  exact ⟨by decide +kernel, by decide +kernel, (broken.2.2.2 uncounted).2⟩

end MailTemplate
