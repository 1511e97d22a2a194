/-
Module: MailTemplate.Proofs.Role
Purpose: What each segment of a document is to the structural passes.
Main exports: Segment.IsReadable, Role, Segment.role, Segment.role_of_not_silent,
  Document.cutAtCloser?, Reference.scan_layouts_block, Reference.scan_layouts_plain,
  Document.filled, fillLayout_raw
-/
import MailTemplate.Proofs.LoopCopy

/-!
The passes that expand layouts, references and loops look at five kinds of tags.  In a readable
document a segment is such a tag as a whole or holds none, so all that these passes need to know
about a segment is its *role*.  A text has no role, and neither has a directive that prints a value
and opens no loop.

Layout blocks span several segments: from an opener to the first closer behind it.
-/

namespace MailTemplate

/-! ### Roles -/

/-- Whether a segment is flat and, unless it prints a value, closes every literal that it opens. -/
def Segment.IsReadable : Segment → Prop
  | .text t => t.isBraceFree = true
  | .directive body => body.isBraceFree = true ∧
      (Directive.isSilent body = true → Directive.closesQuotes body = true)

/-- What a segment is to the structural passes. -/
structure Role where
  loop : Option LoopTag := none
  /-- The name of the component that stands here. -/
  reference : Option Text := none
  /-- The name of the layout of which a block begins here. -/
  layout : Option Text := none
  closesLayout : Bool := false
  holdsContent : Bool := false

/-- The role of a segment. -/
def Segment.role (segment : Segment) : Role where
  loop := LoopTag.pattern.valueOn? segment
  reference := Reference.includes.valueOn? segment
  layout := (Reference.named "layout").valueOn? segment
  closesLayout := (Reference.layoutCloser.valueOn? segment).isSome
  holdsContent := (Reference.content.valueOn? segment).isSome

namespace Segment

@[simp] theorem role_text (t : Text) : (text t).role = {} := rfl

theorem isFlat_of_isReadable {segment : Segment} (readable : segment.IsReadable) :
    segment.isFlat = true := by
  cases segment with
  | text t => exact readable
  | directive body => exact readable.1

/-- Tidy segments are readable: they open no literal at all, or close it. -/
theorem isReadable_of_isTidy {segment : Segment} (tidy : segment.isTidy = true) :
    segment.IsReadable := by
  cases segment with
  | text t => exact tidy
  | directive body =>
      rw [isTidy, Bool.and_eq_true] at tidy
      exact ⟨tidy.1, fun _ => tidy.2⟩

/-- A directive that prints a value and is no loop tag has no role. -/
theorem role_of_not_silent {body : Text} (flat : body.isBraceFree = true)
    (speaks : Directive.isSilent body = false) (plain : LoopTag.pattern.valueOf? body = none) :
    (directive body).role = {} := by
  have quiet (silent : Directive.isSilent body = true) : False := by
    rw [silent] at speaks
    exact absurd speaks (by simp)
  have word {w : String} (known : w.toList ∈ Directive.loneWords ++ Directive.closerWords) :
      (Directive.wordPattern w ()).valueOf? body = none := by
    cases read : (Directive.wordPattern w ()).valueOf? body with
    | none => rfl
    | some _ => exact (quiet (Directive.isSilent_of_wordPattern known flat read)).elim
  have name {w : String} (known : w.toList ∈ Directive.argumentWords) :
      (Reference.named w).valueOf? body = none := by
    cases read : (Reference.named w).valueOf? body with
    | none => rfl
    | some _ =>
        exact (quiet (Reference.isSilent_of_named known flat (fun s => (quiet s).elim) read)).elim
  have reference : Reference.includes.valueOf? body = none := by
    rw [Reference.includes, Pattern.valueOf?_orElse, name (by decide), name (by decide)]
    rfl
  have layout : (Reference.named "layout").valueOf? body = none := name (by decide)
  have closer : Reference.layoutCloser.valueOf? body = none := word (by decide)
  have content : Reference.content.valueOf? body = none := word (by decide)
  simp only [role, Pattern.valueOn?, plain, reference, layout, closer, content]
  rfl

variable {segment : Segment}

/-- A reference in a readable segment is the whole segment. -/
theorem reads_includes (readable : segment.IsReadable) : Reference.includes.Reads segment := by
  apply Reference.bracketed_includes.reads (isFlat_of_isReadable readable)
  rintro body rfl
  exact Reference.readsWhole_includes readable.1 readable.2

/-- So is a closer of a layout. -/
theorem reads_closer (readable : segment.IsReadable) : Reference.layoutCloser.Reads segment := by
  apply (Directive.bracketed_wordPattern _ ()).reads (isFlat_of_isReadable readable)
  rintro body rfl
  exact Reference.readsWhole_layoutCloser (Text.not_mem_of_isBraceFree readable.1)

/-- So is the place for the content of a layout. -/
theorem reads_content (readable : segment.IsReadable) : Reference.content.Reads segment := by
  apply (Directive.bracketed_wordPattern _ ()).reads (isFlat_of_isReadable readable)
  rintro body rfl
  exact Reference.readsWhole_content (Text.not_mem_of_isBraceFree readable.1)

/-- The name of a component or layout is written in the segment that refers to it. -/
theorem name_subset (readable : segment.IsReadable) {name : Text}
    (refers : segment.role.reference = some name ∨ segment.role.layout = some name) :
    name ⊆ segment.inner := by
  cases segment with
  | text t => simp at refers
  | directive body =>
      rcases refers with reference | layout
      · exact Reference.subset_of_includes readable.1 readable.2 reference
      · exact (Reference.begins_of_named (by decide) readable.1 readable.2 layout).2

end Segment

/-! ### Layout blocks -/

/-- What stands in a document before the first segment that closes a layout, that segment, and what
stands behind it. -/
def Document.cutAtCloser? : Document → Option (Document × Segment × Document)
  | [] => none
  | segment :: doc =>
      if segment.role.closesLayout then some ([], segment, doc)
      else (cutAtCloser? doc).map fun found => (segment :: found.1, found.2)

namespace Document

/-- Cutting at a closer loses nothing. -/
theorem eq_of_cutAtCloser? {doc body after : Document} {closer : Segment}
    (cut : cutAtCloser? doc = some (body, closer, after)) : doc = body ++ closer :: after := by
  induction doc generalizing body with
  | nil => simp [cutAtCloser?] at cut
  | cons segment doc ih =>
      rw [cutAtCloser?] at cut
      split at cut
      · simp only [Option.some.injEq, Prod.mk.injEq] at cut
        obtain ⟨rfl, rfl, rfl⟩ := cut
        rfl
      · obtain ⟨⟨front, last, behind⟩, found, same⟩ := Option.map_eq_some_iff.1 cut
        simp only [Prod.mk.injEq] at same
        obtain ⟨rfl, rfl, rfl⟩ := same
        rw [ih found, List.cons_append]

/-- What is left behind a closer is shorter. -/
theorem length_of_cutAtCloser? {doc body after : Document} {closer : Segment}
    (cut : cutAtCloser? doc = some (body, closer, after)) : after.length < doc.length := by
  rw [eq_of_cutAtCloser? cut, List.length_append, List.length_cons]
  omega

/-- The text of a segment and the document behind it, cut at the first closer. -/
theorem raw_of_cutAtCloser? {doc body after : Document} {closer : Segment}
    (cut : cutAtCloser? doc = some (body, closer, after)) (segment : Segment) :
    segment.raw ++ doc.raw = segment.raw ++ body.raw ++ closer.raw ++ after.raw := by
  rw [eq_of_cutAtCloser? cut]
  simp

/-- The first closing tag in a document's text is where the document is cut. -/
theorem find?_layoutCloser {doc : Document} (readable : ∀ segment ∈ doc, segment.IsReadable) :
    Reference.layoutCloser.find? doc.raw =
      (cutAtCloser? doc).map fun found => (raw found.1, ⟨found.2.1.raw, ()⟩, raw found.2.2) := by
  -- The scan for closers follows the cut, so the search finds what it takes first.
  have scan : match cutAtCloser? doc with
      | some (body, closer, after) => Reference.layoutCloser.scan doc.raw =
          (raw body).map .plain ++ .hit ⟨closer.raw, ()⟩ :: Reference.layoutCloser.scan (raw after)
      | none => Reference.layoutCloser.scan doc.raw = doc.raw.map .plain := by
    induction doc with
    | nil => rfl
    | cons segment doc ih =>
        have rest := ih fun other here => readable other (List.mem_cons_of_mem _ here)
        have reads := Segment.reads_closer (readable segment List.mem_cons_self)
        rw [cutAtCloser?, raw_cons, reads]
        cases closes : Reference.layoutCloser.valueOn? segment with
        | some _ =>
            have role : segment.role.closesLayout = true := by simp [Segment.role, closes]
            rw [if_pos role, Pattern.tokensOf_of_some closes]
            rfl
        | none =>
            have role : ¬ segment.role.closesLayout = true := by simp [Segment.role, closes]
            rw [if_neg role, Pattern.tokensOf_of_none closes]
            cases cut : cutAtCloser? doc with
            | none =>
                rw [cut] at rest
                simp only [Option.map_none] at rest ⊢
                rw [rest, List.map_append]
            | some found =>
                rw [cut] at rest
                simp only [Option.map_some] at rest ⊢
                rw [rest, raw_cons, List.map_append, List.append_assoc]
  cases cut : cutAtCloser? doc with
  | none =>
      rw [cut] at scan
      exact Pattern.findOnto_of_plain scan
  | some found =>
      rw [cut] at scan
      rw [Pattern.find?, Pattern.findOnto_of_scan scan, Pattern.scan_flatMap_raw]
      rfl

end Document

namespace Reference

variable {σ : Type} {doc : Document} {segment : Segment}

theorem bracketed_layouts : layouts.Bracketed :=
  (bracketed_named "layout").block layoutCloser

/-- An opener with a closer behind it begins a layout block. -/
theorem scan_layouts_block (readable : ∀ other ∈ segment :: doc, other.IsReadable) {name : Text}
    (opens : segment.role.layout = some name) {body after : Document} {closer : Segment}
    (cut : Document.cutAtCloser? doc = some (body, closer, after)) :
    layouts.scan (segment.raw ++ body.raw ++ closer.raw ++ after.raw) =
      .hit ⟨segment.raw ++ body.raw ++ closer.raw, (name, body.raw)⟩ :: layouts.scan after.raw := by
  have opener : (named "layout").read (segment.raw ++ doc.raw) =
      some (⟨segment.raw, name⟩, doc.raw) := by
    cases segment with
    | text t => exact absurd opens (by simp)
    | directive content =>
        have here := readable (.directive content) List.mem_cons_self
        have value : (named "layout").valueOf? content = some name := opens
        rw [readsWhole_named (by decide) here.1 here.2, value]
        rfl
  have found := Document.find?_layoutCloser fun other here =>
    readable other (List.mem_cons_of_mem _ here)
  rw [cut, Option.map_some] at found
  have read : layouts.read (segment.raw ++ doc.raw) =
      some (⟨segment.raw ++ body.raw ++ closer.raw, (name, body.raw)⟩, after.raw) := by
    simp only [layouts, Pattern.block, opener, found]
  rw [← Document.raw_of_cutAtCloser? cut segment, Pattern.scan_of_read read]

/-- A segment that begins no layout block is passed over. -/
theorem scan_layouts_plain (readable : ∀ other ∈ segment :: doc, other.IsReadable)
    (passed : segment.role.layout = none ∨ Document.cutAtCloser? doc = none) :
    layouts.scan (segment.raw ++ doc.raw) = segment.raw.map .plain ++ layouts.scan doc.raw := by
  have here := readable segment List.mem_cons_self
  cases segment with
  | text t => exact bracketed_layouts.scan_append (Text.isBraceFree_iff.1 here).1 doc.raw
  | directive content =>
      apply Pattern.scan_directive_append_of_none bracketed_layouts here.1
      have opener := readsWhole_named (by decide) here.1 here.2 doc.raw (w := "layout")
      have found := Document.find?_layoutCloser fun other inside =>
        readable other (List.mem_cons_of_mem _ inside)
      rcases passed with plain | unclosed
      · have value : (named "layout").valueOf? content = none := plain
        rw [value] at opener
        simp only [layouts, Pattern.block, opener, Option.map_none]
      · rw [unclosed, Option.map_none] at found
        cases value : (named "layout").valueOf? content with
        | none =>
            rw [value] at opener
            simp only [layouts, Pattern.block, opener, Option.map_none]
        | some name =>
            rw [value] at opener
            simp only [layouts, Pattern.block, opener, Option.map_some, found]

end Reference

/-- A layout filled with a document. -/
def Document.filled (body layout : Document) : Document :=
  layout.flatMap fun segment => if segment.role.holdsContent then body else [segment]

/-- A layout is filled segment by segment. -/
theorem fillLayout_raw (body : Document) {layout : Document}
    (readable : ∀ segment ∈ layout, segment.IsReadable) :
    fillLayout body.raw layout.raw = (body.filled layout).raw := by
  have replaced :=
    Pattern.replace_reads (fun segment here => Segment.reads_content (readable segment here))
    fun _ => body.raw
  rw [fillLayout, replaced, Document.filled]
  unfold Document.raw
  rw [List.flatMap_assoc]
  refine List.flatMap_congr fun segment _ => ?_
  cases holds : Reference.content.valueOn? segment <;> simp [Pattern.replaceIn, Segment.role, holds]

end MailTemplate
