/-
Module: MailTemplate.Proofs.Splicing
Purpose: Unfolding the loops of a part before or after it is spliced into a document.
Main exports: LoopTag.comma_not_mem, Segment.isSplicable, Segment.keepsTags_splicable,
  Unfolding.read_close_append, Document.unfold_splice, unfoldLoops_splice
-/
import MailTemplate.Proofs.LoopLines
import MailTemplate.Proofs.Settled

/-!
A part of a document may open loops that are closed behind it and close loops that are opened in
front of it.  Unfolding the part by itself leaves these tags where they are, and what it does
replace is *settled*: reading it once more changes nothing, whatever loops are open around it.  So
to a reader that comes from the text in front of it, the part and its unfolding are the same.

The one thing that could go wrong is that a copy of a segment is a loop tag that its original was
not, or the other way round.  The number of a copy is put into a directive behind a key, in the
place of a plus sign, so the first word of the directive is `loop` only if it was that before.  And
an opener in which the number could be put has a comma in what it asks for.
-/

namespace MailTemplate

/-! ### Loop tags and commas -/

namespace LoopTag

/-- Only what an opener asks for can hold a comma. -/
theorem comma_not_mem {body : Text} {tag : LoopTag} (closed : '}' ∉ body)
    (read : pattern.valueOf? body = some tag)
    (plain : ∀ argument, tag = .opener argument → ',' ∉ argument) : ',' ∉ body := by
  cases tag with
  | opener argument =>
      obtain ⟨front, pad, begins, blank⟩ := body_of_opener closed read
      have before : ',' ∉ front.flatten := Shape.not_mem_of_take? (by decide) begins
      have behind : ',' ∉ pad := Text.not_mem_of_isPadding blank (by decide)
      rw [← Shape.take?_flatten begins, List.mem_append, List.mem_append, not_or, not_or]
      exact ⟨before, plain argument rfl, behind⟩
  | closer =>
      rw [valueOf?_eq closed, Option.or_eq_some_iff] at read
      rcases read with opens | ⟨_, closes⟩
      · obtain ⟨_, _, value⟩ := Option.map_eq_some_iff.1 opens
        exact absurd value (by simp)
      · obtain ⟨pieces, all, _⟩ := Option.map_eq_some_iff.1 closes
        exact Shape.not_mem_of_takeAll? (by decide) all

/-- What begins with the word `loop` and a blank once a number stands behind the key did so
before. -/
theorem start_of_numbered {front behind number rest : Text} {gap : Char}
    (blank : isBlank gap = true)
    (start : Text.trimStart (Text.trim front ++ '_' :: number) = "loop".toList ++ gap :: rest) :
    ∃ rest', Text.trimStart (front ++ '+' :: behind) = "loop".toList ++ gap :: rest' := by
  have underscore : isBlank '_' = false := by decide
  rw [Text.trimStart_append_cons underscore, Text.trimStart_trim] at start
  obtain ⟨pad, _, whole⟩ := Text.trim_append_padding_eq front
  rcases List.append_eq_append_iff.1 start with ⟨left, word, begins⟩ | ⟨left, key, begins⟩
  · -- The key is too short to hold the word, so the underscore behind it would be in the word.
    cases left with
    | nil =>
        obtain ⟨rfl, _⟩ := List.cons.inj begins
        exact absurd blank (by rw [underscore]; simp)
    | cons c left =>
        obtain ⟨rfl, _⟩ := List.cons.inj begins
        have inside : '_' ∈ "loop".toList := by
          rw [word]
          exact List.mem_append_right _ List.mem_cons_self
        exact absurd inside (by decide)
  · cases left with
    | nil =>
        obtain ⟨rfl, _⟩ := List.cons.inj begins
        exact absurd blank (by rw [underscore]; simp)
    | cons c left =>
        obtain ⟨rfl, _⟩ := List.cons.inj begins
        refine ⟨left ++ pad ++ '+' :: behind, ?_⟩
        rw [Text.trimStart_append_cons (by decide), ← whole, key]
        simp

end LoopTag

/-! ### Segments that can be spliced -/

namespace Segment

/-- Whether a segment is flat and, if it opens a loop, asks for something without a comma. -/
def isSplicable (segment : Segment) : Bool :=
  segment.isFlat &&
    match segment.loopTag? with
    | some (.opener argument) => !argument.contains ','
    | _ => true

theorem isSplicable_iff {segment : Segment} :
    segment.isSplicable = true ↔ segment.isFlat = true ∧
      ∀ argument, segment.loopTag? = some (.opener argument) → ',' ∉ argument := by
  rw [isSplicable, Bool.and_eq_true]
  refine and_congr_right fun _ => ?_
  split
  · rename_i argument opens
    simp [opens]
  · rename_i other
    exact ⟨fun _ argument opens => absurd opens (other argument), fun _ => rfl⟩

theorem isFlat_of_isSplicable {segment : Segment} (splicable : segment.isSplicable = true) :
    segment.isFlat = true :=
  (isSplicable_iff.1 splicable).1

/-- Copying leaves a loop tag as it is. -/
theorem copy_of_loopTag {segment : Segment} (splicable : segment.isSplicable = true)
    (tagged : segment.loopTag? ≠ none) (index : Nat) : segment.copy index = segment := by
  cases segment with
  | text t => rfl
  | directive body =>
      obtain ⟨tag, read⟩ := Option.ne_none_iff_exists'.1 tagged
      obtain ⟨flat, plain⟩ := isSplicable_iff.1 splicable
      rw [isFlat_directive] at flat
      have still : IndexTag.pattern.valueOf? body = none := by
        cases placeholder : IndexTag.pattern.valueOf? body with
        | none => rfl
        | some _ => exact absurd (IndexTag.loopTag_eq_none flat placeholder) tagged
      have comma : ',' ∉ body :=
        LoopTag.comma_not_mem (Text.not_mem_of_isBraceFree flat) read fun argument same =>
          plain argument (same ▸ read)
      rw [copy_of_not_placeholder still, IndexedKey.renumber_of_not_mem comma]

/-- Copying makes no loop tag. -/
theorem loopTag?_copy {segment : Segment} (flat : segment.isFlat = true)
    (idle : segment.loopTag? = none) (index : Nat) : (segment.copy index).loopTag? = none := by
  cases segment with
  | text t => rfl
  | directive body =>
      have flat : body.isBraceFree = true := flat
      cases placeholder : IndexTag.pattern.valueOf? body with
      | some tag =>
          rw [copy_of_placeholder placeholder]
          rfl
      | none =>
          have numbered := IndexedKey.isBraceFree_renumber flat index
          rw [copy_of_not_placeholder placeholder]
          cases split : IndexedKey.split? body with
          | none => simpa only [IndexedKey.renumber, split] using idle
          | some found =>
              obtain ⟨key, rest⟩ := found
              obtain ⟨front, pad, rfl, rfl, _⟩ := IndexedKey.body_of_split? split
              simp only [IndexedKey.renumber, split, List.cons_append, List.append_assoc]
                at numbered ⊢
              cases read : LoopTag.pattern.valueOf?
                  (Text.trim front ++ '_' :: (Text.ofNat (index + 1) ++ ',' :: rest)) with
              | none => exact read
              | some tag =>
                  exfalso
                  -- If the copy is an opener its key begins with the word, and so it did before.
                  rcases LoopTag.body_of_valueOf? numbered read with
                    ⟨argument, gap, after, _, blank, start⟩ | ⟨rfl, _⟩
                  · obtain ⟨before, opens⟩ : ∃ before,
                        Text.trimStart (front ++ '+' :: (pad ++ ',' :: rest)) =
                          "loop".toList ++ gap :: before :=
                      LoopTag.start_of_numbered blank start
                    have tagged := LoopTag.valueOf?_argument (Text.not_mem_of_isBraceFree flat)
                      blank opens
                    exact absurd (idle.symm.trans tagged) (by simp)
                  · have comma := LoopTag.comma_not_mem (Text.not_mem_of_isBraceFree numbered) read
                      (by simp)
                    exact comma (by simp)

theorem isSplicable_copy {segment : Segment} (splicable : segment.isSplicable = true)
    (index : Nat) : (segment.copy index).isSplicable = true := by
  have flat := isFlat_of_isSplicable splicable
  by_cases idle : segment.loopTag? = none
  · refine isSplicable_iff.2 ⟨isFlat_copy flat index, fun argument opens => ?_⟩
    rw [loopTag?_copy flat idle] at opens
    exact absurd opens (by simp)
  · rwa [copy_of_loopTag splicable idle]

theorem keepsTags_splicable : KeepsTags (·.isSplicable = true) where
  copy := isSplicable_copy
  idle := fun splicable idle index => loopTag?_copy (isFlat_of_isSplicable splicable) idle index
  tag := fun splicable tagged index => copy_of_loopTag splicable tagged index

end Segment

/-! ### Reading an unfolding in the place of the document -/

namespace Unfolding

variable {limit : Nat}

theorem close_append (out doc : Document) (loops : List OpenLoop) :
    close (out ++ doc) loops = close out loops ++ doc := by
  cases loops with
  | nil => rfl
  | cons loop loops => simp [close]

/-- One more segment: what the unfolding of the part puts out and what is read of the part itself
have the same effect on an unfolding outside. -/
theorem read_close_readSegment {P : Segment → Prop} (keeps : KeepsTags P) {inner : Unfolding}
    (stands : Stands limit inner.out inner.loops) (all : ∀ segment ∈ inner.out, P segment)
    (segment : Segment) (outer : Unfolding) :
    read limit outer (close (readSegment limit inner segment).out
        (readSegment limit inner segment).loops) =
      readSegment limit (read limit outer (close inner.out inner.loops)) segment := by
  obtain ⟨out, loops⟩ := inner
  have passed : read limit outer (close (out ++ [segment]) loops) =
      readSegment limit (read limit outer (close out loops)) segment := by
    rw [close_append, read_append, read_cons, read_nil]
  cases tag : segment.loopTag? with
  | none =>
      rw [readSegment_idle tag ⟨out, loops⟩]
      exact passed
  | some found =>
      cases found with
      | opener argument =>
          rw [readSegment_opener tag ⟨out, loops⟩, close, read_append]
          rfl
      | closer =>
          cases loops with
          | nil =>
              rw [readSegment_strayCloser tag]
              exact passed
          | cons loop loops =>
              obtain ⟨settled, opens, _⟩ : Settled limit out ∧ _ := stands
              have replaced : Settled limit (replacement limit loop out segment) :=
                replacement_settled keeps opens tag settled all
              have inside (front : Unfolding) : read limit front (loop.opener :: out) =
                  ⟨out, ⟨front.out, loop.opener, loop.argument⟩ :: front.loops⟩ := by
                rw [read_cons, readSegment_opener opens, settled.read, emit, List.nil_append]
              rw [readSegment_closer tag, close_append, read_append, replaced.read, close,
                read_append, inside, readSegment_closer tag]
              rfl

/-- Reading the unfolding of a part has, whatever loops are open around it, the effect of reading
the part. -/
theorem read_close_append {P : Segment → Prop} (keeps : KeepsTags P) {doc : Document}
    (all : ∀ segment ∈ doc, P segment) {inner : Unfolding}
    (shared : inner.Related (Segment.Shared P) inner) (stands : Stands limit inner.out inner.loops)
    (outer : Unfolding) :
    read limit outer (close (read limit inner doc).out (read limit inner doc).loops) =
      read limit outer (close inner.out inner.loops ++ doc) := by
  induction doc generalizing inner with
  | nil => simp
  | cons segment doc ih =>
      have here := all segment List.mem_cons_self
      have own := Segment.forall₂_shared.1 shared.out
      rw [read_cons, ih (fun other inside => all other (List.mem_cons_of_mem _ inside))
        (readSegment_related (LoopAlike.shared keeps.copy) shared ⟨rfl, here⟩)
        (readSegment_stands keeps stands own segment), read_append,
        read_close_readSegment keeps stands own, read_append, read_cons]

end Unfolding

/-- Unfolding a part first makes no difference to the document around it. -/
theorem Document.unfold_splice {P : Segment → Prop} (keeps : KeepsTags P) {part : Document}
    (all : ∀ segment ∈ part, P segment) (limit : Nat) (before behind : Document) :
    unfold limit (before ++ unfold limit part ++ behind) =
      unfold limit (before ++ part ++ behind) := by
  have start : Unfolding.Related (Segment.Shared P) ⟨[], []⟩ ⟨[], []⟩ := ⟨.nil, .nil⟩
  have ground : Unfolding.Grounded limit [] := Unfolding.grounded_of_settled .nil
  have spliced := Unfolding.read_close_append keeps all start ground
    (Unfolding.read limit ⟨[], []⟩ before)
  have whole : Unfolding.read limit ⟨[], []⟩ (before ++ unfold limit part ++ behind) =
      Unfolding.read limit ⟨[], []⟩ (before ++ part ++ behind) := by
    simp only [Unfolding.read_append]
    exact congrArg (Unfolding.read limit · behind) spliced
  exact congrArg (fun unfolding => Unfolding.close unfolding.out unfolding.loops) whole

/-- The loops of a part may be unfolded before the part is spliced into a text or afterwards,
however its loop tags match those around it; and unfolding a second time changes nothing. -/
theorem unfoldLoops_splice {before part behind : Document}
    (splicable : ∀ segment ∈ before ++ part ++ behind, segment.isSplicable = true) (limit : Nat) :
    unfoldLoops limit (before.raw ++ unfoldLoops limit part.raw ++ behind.raw) =
      unfoldLoops limit (before.raw ++ part.raw ++ behind.raw) ∧
    unfoldLoops limit (unfoldLoops limit part.raw) = unfoldLoops limit part.raw := by
  have inner : ∀ segment ∈ part, segment.isSplicable = true := fun segment here =>
    splicable segment (by simp [here])
  have unfolded : ∀ segment ∈ part.unfold limit, segment.isSplicable = true :=
    Document.unfold_preserves Segment.isSplicable_copy inner
  have rows : ∀ segment ∈ before ++ part.unfold limit ++ behind, segment.isSplicable = true := by
    intro segment here
    rw [List.mem_append, List.mem_append] at here
    rcases here with (front | middle) | back
    · exact splicable segment (by simp [front])
    · exact unfolded segment middle
    · exact splicable segment (by simp [back])
  have text {doc : Document} (all : ∀ segment ∈ doc, segment.isSplicable = true) :
      unfoldLoops limit doc.raw = (doc.unfold limit).raw :=
    unfoldLoops_raw (fun segment here => Segment.isFlat_of_isSplicable (all segment here)) limit
  constructor
  · calc unfoldLoops limit (before.raw ++ unfoldLoops limit part.raw ++ behind.raw)
      _ = unfoldLoops limit (Document.raw (before ++ part.unfold limit ++ behind)) := by
        rw [text inner, Document.raw_append, Document.raw_append]
      _ = (Document.unfold limit (before ++ part.unfold limit ++ behind)).raw := text rows
      _ = (Document.unfold limit (before ++ part ++ behind)).raw := by
        rw [Document.unfold_splice Segment.keepsTags_splicable inner]
      _ = unfoldLoops limit (Document.raw (before ++ part ++ behind)) := (text splicable).symm
      _ = unfoldLoops limit (before.raw ++ part.raw ++ behind.raw) := by
        rw [Document.raw_append, Document.raw_append]
  · rw [text inner, text unfolded, Document.unfold_unfold Segment.keepsTags_splicable inner]

/-- A part that closes a loop in front of it, opens one that is closed behind it, and holds one that
is unfolded and one that asks for no number. -/
def rotaPart : Document :=
  [.directive "_index1".toList, .directive "/loop".toList, .directive "loop +2".toList,
    .directive "day+, 'free'".toList, .directive "loop many".toList, .directive "_index".toList,
    .directive "/loop".toList, .directive "/loop".toList, .directive "loop 3".toList]

/-- What stands in front of the part. -/
def rotaFront : Document :=
  [.directive "loop 2".toList, .text "week ".toList]

/-- What stands behind the part. -/
def rotaBack : Document :=
  [.text " late: ".toList, .directive "_index".toList, .directive "/loop".toList,
    .directive "/loop".toList]

/-- A rota with its part unfolded first. -/
theorem unfoldLoops_splice_rota :
    (∀ segment ∈ rotaFront ++ rotaPart ++ rotaBack, segment.isSplicable = true) ∧
    unfoldLoops 5 (rotaFront.raw ++ unfoldLoops 5 rotaPart.raw ++ rotaBack.raw) =
      unfoldLoops 5 (rotaFront.raw ++ rotaPart.raw ++ rotaBack.raw) ∧
    unfoldLoops 5 (unfoldLoops 5 rotaPart.raw) = unfoldLoops 5 rotaPart.raw := by
  have splicable : ∀ segment ∈ rotaFront ++ rotaPart ++ rotaBack,
      segment.isSplicable = true := by
    decide
  exact ⟨splicable, unfoldLoops_splice splicable 5⟩

end MailTemplate
