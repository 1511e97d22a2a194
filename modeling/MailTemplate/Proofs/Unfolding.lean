/-
Module: MailTemplate.Proofs.Unfolding
Purpose: Unfolding the loops of a flat document, segment by segment.
Main exports: Segment.loopTag?, Unfolding, Unfolding.read, Document.unfold, Document.unfold_related,
  Document.unfold_preserves, unfoldLoops_raw
-/
import Mathlib.Data.List.Forall2
import MailTemplate.Proofs.LoopCopy

/-!
On a flat document the expansion of loops can be followed a segment at a time: `Document.unfold`
does so, and `unfoldLoops_raw` says that it is the expansion of the document's text.  All that is
proved about expansion is proved about `Document.unfold`.

Related documents unfold to related documents, as long as related segments are the same loop tags
and copying keeps them related.
-/

namespace MailTemplate

/-- The loop tag that a segment is, if it is one. -/
def Segment.loopTag? (segment : Segment) : Option LoopTag :=
  LoopTag.pattern.valueOn? segment

@[simp] theorem Segment.loopTag?_text (t : Text) : (Segment.text t).loopTag? = none := rfl

/-- A flat segment is one loop tag, or holds none. -/
theorem LoopTag.reads {segment : Segment} (flat : segment.isFlat = true) :
    LoopTag.pattern.Reads segment := by
  apply LoopTag.bracketed.reads flat
  rintro body rfl
  exact LoopTag.readsWhole (Text.not_mem_of_isBraceFree flat)

/-- An opener still to be closed, and the segments in front of it. -/
structure OpenLoop where
  before : Document
  opener : Segment
  argument : Text

/-- How far an unfolding has come: the segments since the last open opener, and the openers still to
be closed, innermost first. -/
structure Unfolding where
  out : Document
  loops : List OpenLoop

/-- The copies of a loop body, in order. -/
def Document.copies (count : Nat) (body : Document) : Document :=
  (List.range count).flatMap fun index => body.map (Segment.copy index)

namespace Unfolding

/-- Adds segments to the output. -/
def emit (doc : Document) (unfolding : Unfolding) : Unfolding :=
  ⟨unfolding.out ++ doc, unfolding.loops⟩

/-- What a loop whose body has been unfolded is replaced by. -/
def replacement (limit : Nat) (loop : OpenLoop) (body : Document) (closer : Segment) : Document :=
  match copyCount? limit loop.argument with
  | some count => Document.copies count body
  | none => loop.opener :: (body ++ [closer])

/-- Reads one segment. -/
def readSegment (limit : Nat) (unfolding : Unfolding) (segment : Segment) : Unfolding :=
  match segment.loopTag? with
  | none => unfolding.emit [segment]
  | some (.opener argument) => ⟨[], ⟨unfolding.out, segment, argument⟩ :: unfolding.loops⟩
  | some .closer =>
      match unfolding.loops with
      | [] => unfolding.emit [segment]
      | loop :: loops => ⟨loop.before ++ replacement limit loop unfolding.out segment, loops⟩

/-- Reads the segments of a document. -/
def read (limit : Nat) (unfolding : Unfolding) (doc : Document) : Unfolding :=
  doc.foldl (readSegment limit) unfolding

/-- The output with the openers that are left open put back. -/
def close (out : Document) : List OpenLoop → Document
  | [] => out
  | loop :: loops => close loop.before loops ++ loop.opener :: out

end Unfolding

/-- A document with its loops unfolded. -/
def Document.unfold (limit : Nat) (doc : Document) : Document :=
  let unfolding := Unfolding.read limit ⟨[], []⟩ doc
  Unfolding.close unfolding.out unfolding.loops

/-! ### The steps of an unfolding -/

namespace Unfolding

variable {limit : Nat}

@[simp] theorem emit_nil (unfolding : Unfolding) : unfolding.emit [] = unfolding := by
  simp [emit]

@[simp] theorem emit_emit (first second : Document) (unfolding : Unfolding) :
    (unfolding.emit first).emit second = unfolding.emit (first ++ second) := by
  simp [emit]

@[simp] theorem read_nil (unfolding : Unfolding) : read limit unfolding [] = unfolding := rfl

@[simp] theorem read_cons (unfolding : Unfolding) (segment : Segment) (doc : Document) :
    read limit unfolding (segment :: doc) =
      read limit (readSegment limit unfolding segment) doc := rfl

/-- Reading goes on where it stopped. -/
theorem read_append (unfolding : Unfolding) (first second : Document) :
    read limit unfolding (first ++ second) = read limit (read limit unfolding first) second :=
  List.foldl_append

/-- Whatever is no loop tag is put out. -/
theorem readSegment_idle {segment : Segment} (idle : segment.loopTag? = none)
    (unfolding : Unfolding) : readSegment limit unfolding segment = unfolding.emit [segment] := by
  simp only [readSegment, idle]

/-- An opener puts the output aside until it is closed. -/
theorem readSegment_opener {segment : Segment} {argument : Text}
    (opens : segment.loopTag? = some (.opener argument)) (unfolding : Unfolding) :
    readSegment limit unfolding segment =
      ⟨[], ⟨unfolding.out, segment, argument⟩ :: unfolding.loops⟩ := by
  simp only [readSegment, opens]

/-- A closer replaces the innermost loop and takes up the output in front of it. -/
theorem readSegment_closer {segment : Segment} (closes : segment.loopTag? = some .closer)
    (out : Document) (loop : OpenLoop) (loops : List OpenLoop) :
    readSegment limit ⟨out, loop :: loops⟩ segment =
      ⟨loop.before ++ replacement limit loop out segment, loops⟩ := by
  simp only [readSegment, closes]

/-- A closer without an opener is put out like any other segment. -/
theorem readSegment_strayCloser {segment : Segment} (closes : segment.loopTag? = some .closer)
    (out : Document) : readSegment limit ⟨out, []⟩ segment = ⟨out ++ [segment], []⟩ := by
  simp only [readSegment, closes]
  rfl

end Unfolding

/-! ### Related documents -/

/-- Related segments are the same loop tag, if they are one, and have related copies. -/
structure LoopAlike (ρ : Segment → Segment → Prop) : Prop where
  tag : ∀ {a b}, ρ a b → a.loopTag? = b.loopTag?
  copy : ∀ {a b}, ρ a b → ∀ index, ρ (a.copy index) (b.copy index)

/-- Open openers with one argument and related segments. -/
structure OpenLoop.Related (ρ : Segment → Segment → Prop) (first second : OpenLoop) : Prop where
  before : List.Forall₂ ρ first.before second.before
  opener : ρ first.opener second.opener
  argument : first.argument = second.argument

/-- Unfoldings that have come equally far, with related segments. -/
structure Unfolding.Related (ρ : Segment → Segment → Prop) (first second : Unfolding) : Prop where
  out : List.Forall₂ ρ first.out second.out
  loops : List.Forall₂ (OpenLoop.Related ρ) first.loops second.loops

section Related

variable {ρ : Segment → Segment → Prop} {limit : Nat}

/-- Bodies that are related segment by segment have related copies. -/
theorem Document.copies_related (alike : LoopAlike ρ) {first second : Document}
    (related : List.Forall₂ ρ first second) (count : Nat) :
    List.Forall₂ ρ (copies count first) (copies count second) := by
  unfold copies
  induction List.range count with
  | nil => exact .nil
  | cons index indices ih =>
      simp only [List.flatMap_cons]
      refine List.rel_append ?_ ih
      rw [List.forall₂_map_left_iff, List.forall₂_map_right_iff]
      exact related.imp fun _ _ one => alike.copy one index

namespace Unfolding

/-- Loops with one argument are both copied, or both left as they are. -/
theorem replacement_related (alike : LoopAlike ρ) {one two : OpenLoop} (loops : one.Related ρ two)
    {first second : Document} (related : List.Forall₂ ρ first second) {a b : Segment}
    (closers : ρ a b) :
    List.Forall₂ ρ (replacement limit one first a) (replacement limit two second b) := by
  unfold replacement
  rw [loops.argument]
  cases copyCount? limit two.argument with
  | some count => exact Document.copies_related alike related count
  | none => exact .cons loops.opener (List.rel_append related (.cons closers .nil))

/-- Related segments may be put out side by side. -/
theorem emit_related {first second : Unfolding} (related : first.Related ρ second) {a b : Segment}
    (one : ρ a b) : (first.emit [a]).Related ρ (second.emit [b]) :=
  ⟨List.rel_append related.out (.cons one .nil), related.loops⟩

/-- Related segments are the same tag, so unfoldings that are equally far take the same step. -/
theorem readSegment_related (alike : LoopAlike ρ) {first second : Unfolding}
    (related : first.Related ρ second) {a b : Segment} (one : ρ a b) :
    (readSegment limit first a).Related ρ (readSegment limit second b) := by
  cases tag : b.loopTag? with
  | none =>
      rw [readSegment_idle tag, readSegment_idle ((alike.tag one).trans tag)]
      exact emit_related related one
  | some found =>
      cases found with
      | opener argument =>
          rw [readSegment_opener tag, readSegment_opener ((alike.tag one).trans tag)]
          exact ⟨.nil, .cons ⟨related.out, one, rfl⟩ related.loops⟩
      | closer =>
          obtain ⟨out, loops⟩ := first
          obtain ⟨out', loops'⟩ := second
          obtain ⟨outs, opened⟩ := related
          cases opened with
          | nil =>
              rw [readSegment_strayCloser tag, readSegment_strayCloser ((alike.tag one).trans tag)]
              exact ⟨List.rel_append outs (.cons one .nil), .nil⟩
          | cons loop others =>
              rw [readSegment_closer tag, readSegment_closer ((alike.tag one).trans tag)]
              exact ⟨List.rel_append loop.before (replacement_related alike loop outs one), others⟩

/-- By the steps, unfoldings stay equally far to the end of related documents. -/
theorem read_related (alike : LoopAlike ρ) {doc doc' : Document} (docs : List.Forall₂ ρ doc doc')
    {first second : Unfolding} (related : first.Related ρ second) :
    (read limit first doc).Related ρ (read limit second doc') := by
  induction docs generalizing first second with
  | nil => exact related
  | cons one _ ih => exact ih (readSegment_related alike related one)

/-- What is left open is put back alike on both sides. -/
theorem close_related {loops loops' : List OpenLoop}
    (opened : List.Forall₂ (OpenLoop.Related ρ) loops loops')
    {out out' : Document} (related : List.Forall₂ ρ out out') :
    List.Forall₂ ρ (close out loops) (close out' loops') := by
  induction opened generalizing out out' with
  | nil => exact related
  | cons loop _ ih => exact List.rel_append (ih loop.before) (.cons loop.opener related)

end Unfolding

/-- Related documents unfold to related documents. -/
theorem Document.unfold_related (alike : LoopAlike ρ) {first second : Document}
    (related : List.Forall₂ ρ first second) :
    List.Forall₂ ρ (unfold limit first) (unfold limit second) := by
  have read : (Unfolding.read limit ⟨[], []⟩ first).Related ρ
      (Unfolding.read limit ⟨[], []⟩ second) :=
    Unfolding.read_related alike related ⟨.nil, .nil⟩
  exact Unfolding.close_related read.loops read.out

end Related

/-- A segment with a property, related to itself only. -/
def Segment.Shared (P : Segment → Prop) (a b : Segment) : Prop :=
  a = b ∧ P a

/-- A document is related to itself just if all its segments have the property. -/
theorem Segment.forall₂_shared {P : Segment → Prop} {doc : Document} :
    List.Forall₂ (Segment.Shared P) doc doc ↔ ∀ segment ∈ doc, P segment := by
  simp [List.forall₂_same, Segment.Shared]

/-- A property that copies keep is shared by what unfolding makes of a segment. -/
theorem LoopAlike.shared {P : Segment → Prop}
    (copy : ∀ {segment : Segment}, P segment → ∀ index, P (segment.copy index)) :
    LoopAlike (Segment.Shared P) where
  tag := fun one => congrArg Segment.loopTag? one.1
  copy := fun one index => ⟨congrArg (Segment.copy index) one.1, copy one.2 index⟩

/-- What holds of all segments of a document, and of copies of such segments, holds of all segments
of the unfolded document. -/
theorem Document.unfold_preserves {P : Segment → Prop} {limit : Nat}
    (copy : ∀ {segment : Segment}, P segment → ∀ index, P (segment.copy index)) {doc : Document}
    (all : ∀ segment ∈ doc, P segment) : ∀ segment ∈ unfold limit doc, P segment :=
  Segment.forall₂_shared.1 (unfold_related (LoopAlike.shared copy) (Segment.forall₂_shared.2 all))

/-! ### The text of an unfolding -/

namespace Expansion

/-- Text without tags is put out a character at a time. -/
theorem foldl_plain (limit : Nat) (t : Text) (expansion : Expansion) :
    (t.map .plain).foldl (readToken limit) expansion = expansion.emit t := by
  induction t generalizing expansion with
  | nil => rfl
  | cons c t ih => rw [List.map_cons, List.foldl_cons, ih, readToken, emit, emit, List.reverseAux]

/-- Closing the innermost block that is left open. -/
theorem finish_cons (out : Text) (block : OpenBlock) (blocks : List OpenBlock) :
    finish ⟨out, block :: blocks⟩ = finish ⟨block.before, blocks⟩ ++ block.raw ++ out.reverse := by
  have behind (t : Text) (inner : Text) :
      blocks.foldl (fun inner block => inner ++ block.raw.reverse ++ block.before) (t ++ inner) =
        t ++ blocks.foldl
          (fun inner block => inner ++ block.raw.reverse ++ block.before) inner := by
    induction blocks generalizing inner with
    | nil => rfl
    | cons block blocks ih =>
        rw [List.foldl_cons, List.append_assoc t, List.append_assoc t, ih, List.foldl_cons]
  simp only [finish, List.foldl_cons]
  rw [behind]
  simp

/-- What is put out last is the end of the output. -/
theorem finish_emit (t : Text) (expansion : Expansion) :
    (expansion.emit t).finish = expansion.finish ++ t := by
  obtain ⟨out, blocks⟩ := expansion
  cases blocks with
  | nil => simp [emit, finish, List.reverseAux_eq]
  | cons block blocks =>
      simp only [emit, finish_cons, List.reverseAux_eq, List.reverse_append, List.reverse_reverse,
        List.append_assoc]

end Expansion

namespace Unfolding

/-- An unfolding as an expansion of text. -/
def written (unfolding : Unfolding) : Expansion :=
  ⟨(Document.raw unfolding.out).reverse, unfolding.loops.map fun loop =>
    ⟨(Document.raw loop.before).reverse, loop.opener.raw, loop.argument⟩⟩

/-- Putting out a segment is putting out its text. -/
theorem written_emit (segment : Segment) (unfolding : Unfolding) :
    (unfolding.emit [segment]).written = unfolding.written.emit segment.raw := by
  simp [written, emit, Expansion.emit, List.reverseAux_eq]

end Unfolding

/-- The copies of a flat loop body are made segment by segment. -/
theorem loopCopies_raw {doc : Document} (flat : ∀ segment ∈ doc, segment.isFlat = true)
    (count : Nat) : loopCopies count doc.raw = (Document.copies count doc).raw := by
  unfold loopCopies Document.copies
  induction List.range count with
  | nil => rfl
  | cons index indices ih =>
      simp only [List.flatMap_cons, Document.raw_append]
      rw [ih, loopCopy_raw flat]

namespace Unfolding

variable {limit : Nat}

/-- An unfolding of which all segments are flat. -/
abbrev IsFlat (unfolding : Unfolding) : Prop :=
  unfolding.Related (Segment.Shared (·.isFlat = true)) unfolding

/-- Copying leaves segments flat. -/
theorem alike_flat : LoopAlike (Segment.Shared (·.isFlat = true)) :=
  LoopAlike.shared fun flat index => Segment.isFlat_copy flat index

/-- Reading a segment is reading the tokens of its text. -/
theorem readSegment_written {unfolding : Unfolding} (sound : unfolding.IsFlat) {segment : Segment}
    (flat : segment.isFlat = true) :
    (readSegment limit unfolding segment).written =
      (LoopTag.pattern.scan segment.raw).foldl (Expansion.readToken limit) unfolding.written := by
  rw [(LoopTag.reads flat).scan_eq]
  cases tag : segment.loopTag? with
  | none =>
      rw [readSegment_idle tag, written_emit, Pattern.tokensOf_of_none tag, Expansion.foldl_plain]
  | some found =>
      rw [Pattern.tokensOf_of_some tag]
      cases found with
      | opener argument =>
          rw [readSegment_opener tag]
          rfl
      | closer =>
          obtain ⟨out, loops⟩ := unfolding
          cases loops with
          | nil =>
              rw [readSegment_strayCloser tag]
              exact written_emit segment ⟨out, []⟩
          | cons loop loops =>
              have copies := loopCopies_raw (Segment.forall₂_shared.1 sound.out)
              rw [readSegment_closer tag]
              simp only [List.foldl_cons, List.foldl_nil, written, List.map_cons,
                Expansion.readToken, Expansion.replacement, replacement, List.reverse_reverse]
              cases copyCount? limit loop.argument with
              | some count => simp [Expansion.emit, List.reverseAux_eq, copies]
              | none => simp [Expansion.emit, List.reverseAux_eq]

/-- Reading a document is reading the tokens of its text: no tag lies across two segments. -/
theorem read_written {doc : Document} (flat : ∀ segment ∈ doc, segment.isFlat = true)
    {unfolding : Unfolding} (sound : unfolding.IsFlat) :
    (read limit unfolding doc).written =
      (LoopTag.pattern.scan doc.raw).foldl (Expansion.readToken limit) unfolding.written := by
  induction doc generalizing unfolding with
  | nil => rfl
  | cons segment doc ih =>
      have here := flat segment List.mem_cons_self
      rw [read_cons, ih (fun other inside => flat other (List.mem_cons_of_mem _ inside))
        (readSegment_related alike_flat sound ⟨rfl, here⟩), readSegment_written sound here,
        Document.raw_cons, (LoopTag.reads here).splits, List.foldl_append]

/-- The text of what was left open is the end of the expansion. -/
theorem close_raw (out : Document) (loops : List OpenLoop) :
    (close out loops).raw = (written ⟨out, loops⟩).finish := by
  induction loops generalizing out with
  | nil => simp [close, written, Expansion.finish]
  | cons loop loops ih =>
      simp only [written, List.map_cons] at ih ⊢
      rw [Expansion.finish_cons, ← ih, close]
      simp

end Unfolding

/-- The expansion of the loops of a flat document. -/
theorem unfoldLoops_raw {doc : Document} (flat : ∀ segment ∈ doc, segment.isFlat = true)
    (limit : Nat) : unfoldLoops limit doc.raw = (doc.unfold limit).raw := by
  have start : Unfolding.IsFlat ⟨[], []⟩ := ⟨.nil, .nil⟩
  rw [unfoldLoops, Document.unfold, Unfolding.close_raw, Unfolding.read_written flat start]
  rfl

end MailTemplate
