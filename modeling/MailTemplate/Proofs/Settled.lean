/-
Module: MailTemplate.Proofs.Settled
Purpose: Unfolding the loops of a document twice is unfolding them once.
Main exports: KeepsTags, Settled, Settled.read, Unfolding.Stands, Document.unfold_unfold
-/
import MailTemplate.Proofs.Unfolding

/-!
An unfolding leaves only loops with arguments that are no counts, openers that are never closed, and
closers that close nothing.  What lies between the tags of a kept loop is *settled*: it is balanced
and holds kept loops only, so reading it once more changes nothing.

The invariant is `Unfolding.Stands`: what has been put out inside open loops is settled, and what
has been put out outside is left as it is by a reader that stands outside.  So reading the whole
output once more leads to the same state.
-/

namespace MailTemplate

/-- Segments whose loop tags copying neither changes nor makes. -/
structure KeepsTags (P : Segment → Prop) : Prop where
  copy : ∀ {segment}, P segment → ∀ index, P (segment.copy index)
  idle : ∀ {segment}, P segment → segment.loopTag? = none →
    ∀ index, (segment.copy index).loopTag? = none
  tag : ∀ {segment}, P segment → segment.loopTag? ≠ none → ∀ index, segment.copy index = segment

/-- Documents in which every loop tag belongs to a loop that is kept. -/
inductive Settled (limit : Nat) : Document → Prop where
  | nil : Settled limit []
  | idle {segment : Segment} {doc : Document} (idle : segment.loopTag? = none)
      (rest : Settled limit doc) : Settled limit (segment :: doc)
  | kept {opener closer : Segment} {argument : Text} {body doc : Document}
      (opens : opener.loopTag? = some (.opener argument)) (closes : closer.loopTag? = some .closer)
      (uncounted : copyCount? limit argument = none) (inner : Settled limit body)
      (rest : Settled limit doc) : Settled limit (opener :: (body ++ closer :: doc))

namespace Settled

variable {limit : Nat}

/-- One document behind another: no loop reaches from the first into the second. -/
theorem append {first second : Document} (one : Settled limit first) (two : Settled limit second) :
    Settled limit (first ++ second) := by
  induction one with
  | nil => exact two
  | idle idle _ ih => exact .idle idle ih
  | kept opens closes uncounted inner _ _ ih =>
      have whole := Settled.kept opens closes uncounted inner ih
      simpa using whole

/-- Reading a settled document changes nothing. -/
theorem read {doc : Document} (settled : Settled limit doc) (unfolding : Unfolding) :
    Unfolding.read limit unfolding doc = unfolding.emit doc := by
  induction settled generalizing unfolding with
  | nil => simp
  | idle idle _ ih =>
      rw [Unfolding.read_cons, Unfolding.readSegment_idle idle, ih, Unfolding.emit_emit]
      rfl
  | @kept opener closer argument body doc opens closes uncounted _ _ inner rest =>
      rw [Unfolding.read_cons, Unfolding.readSegment_opener opens, Unfolding.read_append, inner,
        Unfolding.read_cons, Unfolding.emit, Unfolding.readSegment_closer closes, rest]
      simp [Unfolding.replacement, uncounted, Unfolding.emit]

/-- Copying leaves loop tags as they are and makes none, so it keeps documents settled. -/
theorem map_copy {P : Segment → Prop} (keeps : KeepsTags P) {doc : Document}
    (settled : Settled limit doc) (all : ∀ segment ∈ doc, P segment) (index : Nat) :
    Settled limit (doc.map (Segment.copy index)) := by
  induction settled with
  | nil => exact .nil
  | idle idle _ ih =>
      exact .idle (keeps.idle (all _ List.mem_cons_self) idle index)
        (ih fun segment here => all segment (List.mem_cons_of_mem _ here))
  | @kept opener closer argument body doc opens closes uncounted _ _ inner rest =>
      have first : opener.copy index = opener :=
        keeps.tag (all opener (by simp)) (by simp [opens]) index
      have last : closer.copy index = closer :=
        keeps.tag (all closer (by simp)) (by simp [closes]) index
      have inside := inner fun segment here => all segment (by simp [here])
      have behind := rest fun segment here => all segment (by simp [here])
      rw [List.map_cons, List.map_append, List.map_cons, first, last]
      exact .kept opens closes uncounted inside behind

/-- Copies of a settled body follow each other, each settled by itself. -/
theorem copies {P : Segment → Prop} (keeps : KeepsTags P) {doc : Document}
    (settled : Settled limit doc) (all : ∀ segment ∈ doc, P segment) (count : Nat) :
    Settled limit (Document.copies count doc) := by
  unfold Document.copies
  induction List.range count with
  | nil => exact .nil
  | cons index indices ih => exact (settled.map_copy keeps all index).append ih

end Settled

namespace Unfolding

variable {limit : Nat}

/-- Documents that reading outside loops leaves as they are. -/
def Grounded (limit : Nat) (doc : Document) : Prop :=
  ∀ out, read limit ⟨out, []⟩ doc = ⟨out ++ doc, []⟩

theorem grounded_of_settled {doc : Document} (settled : Settled limit doc) :
    Grounded limit doc :=
  fun out => settled.read ⟨out, []⟩

/-- Documents that reading leaves as they are can stand in a row. -/
theorem Grounded.append {first second : Document} (one : Grounded limit first)
    (two : Grounded limit second) : Grounded limit (first ++ second) := by
  intro out
  rw [read_append, one, two, List.append_assoc]

/-- What has been read in open loops is settled, and what stands in front of them is read outside
loops. -/
def Stands (limit : Nat) (out : Document) : List OpenLoop → Prop
  | [] => Grounded limit out
  | loop :: loops =>
      Settled limit out ∧ loop.opener.loopTag? = some (.opener loop.argument) ∧
        Stands limit loop.before loops

/-- A settled document may be put out wherever the reading stands. -/
theorem Stands.append {out doc : Document} {loops : List OpenLoop} (stands : Stands limit out loops)
    (settled : Settled limit doc) : Stands limit (out ++ doc) loops := by
  cases loops with
  | nil => exact Grounded.append stands (grounded_of_settled settled)
  | cons loop loops => exact ⟨stands.1.append settled, stands.2⟩

/-- A closed loop is copied, or left with its two tags, and settled either way. -/
theorem replacement_settled {P : Segment → Prop} (keeps : KeepsTags P) {loop : OpenLoop}
    {closer : Segment} {body : Document}
    (opens : loop.opener.loopTag? = some (.opener loop.argument))
    (closes : closer.loopTag? = some .closer) (settled : Settled limit body)
    (all : ∀ segment ∈ body, P segment) : Settled limit (replacement limit loop body closer) := by
  unfold replacement
  cases count : copyCount? limit loop.argument with
  | some n => exact settled.copies keeps all n
  | none => exact .kept opens closes count settled .nil

/-- Reading a segment keeps the output between open loops settled. -/
theorem readSegment_stands {P : Segment → Prop} (keeps : KeepsTags P) {unfolding : Unfolding}
    (stands : Stands limit unfolding.out unfolding.loops)
    (all : ∀ segment ∈ unfolding.out, P segment) (segment : Segment) :
    Stands limit (readSegment limit unfolding segment).out
      (readSegment limit unfolding segment).loops := by
  cases tag : segment.loopTag? with
  | none =>
      rw [readSegment_idle tag]
      exact stands.append (.idle tag .nil)
  | some found =>
      cases found with
      | opener argument =>
          rw [readSegment_opener tag]
          exact ⟨.nil, tag, stands⟩
      | closer =>
          obtain ⟨out, loops⟩ := unfolding
          cases loops with
          | nil =>
              rw [readSegment_strayCloser tag]
              refine Grounded.append stands fun front => ?_
              rw [read_cons, readSegment_strayCloser tag, read_nil]
          | cons loop loops =>
              rw [readSegment_closer tag]
              exact Stands.append stands.2.2 (replacement_settled keeps stands.2.1 tag stands.1 all)

/-- So does reading a document, segment by segment. -/
theorem read_stands {P : Segment → Prop} (keeps : KeepsTags P) {doc : Document}
    (all : ∀ segment ∈ doc, P segment) {unfolding : Unfolding}
    (shared : unfolding.Related (Segment.Shared P) unfolding)
    (stands : Stands limit unfolding.out unfolding.loops) :
    Stands limit (read limit unfolding doc).out (read limit unfolding doc).loops := by
  induction doc generalizing unfolding with
  | nil => exact stands
  | cons segment doc ih =>
      have here := all segment List.mem_cons_self
      exact ih (fun other inside => all other (List.mem_cons_of_mem _ inside))
        (readSegment_related (LoopAlike.shared keeps.copy) shared ⟨rfl, here⟩)
        (readSegment_stands keeps stands (Segment.forall₂_shared.1 shared.out) segment)

/-- Reading what an unfolding has put out leads to the same unfolding. -/
theorem read_close {out : Document} {loops : List OpenLoop} (stands : Stands limit out loops) :
    read limit ⟨[], []⟩ (close out loops) = ⟨out, loops⟩ := by
  induction loops generalizing out with
  | nil => exact stands []
  | cons loop loops ih =>
      obtain ⟨settled, opens, outer⟩ := stands
      rw [close, read_append, ih outer, read_cons, readSegment_opener opens, settled.read]
      rfl

end Unfolding

/-- Unfolding the loops of a document twice is unfolding them once. -/
theorem Document.unfold_unfold {P : Segment → Prop} (keeps : KeepsTags P) {doc : Document}
    (all : ∀ segment ∈ doc, P segment) (limit : Nat) :
    unfold limit (unfold limit doc) = unfold limit doc := by
  have start : Unfolding.Related (Segment.Shared P) ⟨[], []⟩ ⟨[], []⟩ := ⟨.nil, .nil⟩
  have stands : Unfolding.Stands limit (Unfolding.read limit ⟨[], []⟩ doc).out
      (Unfolding.read limit ⟨[], []⟩ doc).loops :=
    Unfolding.read_stands keeps all start (Unfolding.grounded_of_settled .nil)
  simp only [unfold, Unfolding.read_close stands]

end MailTemplate
