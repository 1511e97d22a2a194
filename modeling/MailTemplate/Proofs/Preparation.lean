/-
Module: MailTemplate.Proofs.Preparation
Purpose: A flat mail that has been prepared for conversion can still be rendered, with the same
  result.
Main exports: Prepared, Resolver.role_printed, Prepared.sideBySide, Assembly.render_prepared
-/
import MailTemplate.Data.Supply
import MailTemplate.Proofs.FlatMail
import MailTemplate.Proofs.SideBySide

/-!
A rendering prints inside each component before it puts it in its place, and what has been printed
is then read again by every pass of the surrounding texts.  A preparation leaves the print
directives standing all along.  The two go side by side: at every moment the rendering has, for each
segment of the preparation, that segment or what it prints, and neither has a role unless they are
the same.

What a preparation puts out is inert, and its loops are unfolded, so rendering it does nothing but
print.
-/

namespace MailTemplate

variable {σ : Type}

/-- What is printed for a preparable segment has the segment's role. -/
theorem Resolver.role_printed (resolver : Resolver σ) {segment : Segment}
    (preparable : Preparable segment) : (resolver.printed segment).role = segment.role := by
  cases segment with
  | text t => rfl
  | directive body =>
      cases silent : Directive.isSilent body with
      | true => rw [printed_of_silent silent]
      | false =>
          rw [printed_of_not_silent silent, preparable.role_of_not_silent silent,
            Segment.role_text]

/-- A segment of a preparation, and the same segment in a rendering, where it may have been
printed. -/
def Prepared (p : Assembly σ) (a b : Segment) : Prop :=
  Preparable a ∧ (b = a ∨ b = p.resolver.printed a)

/-- Such segments in a text in which all references have been expanded that can be. -/
def Expanded (p : Assembly σ) (a b : Segment) : Prop :=
  Prepared p a b ∧ ∀ name, a.role.reference = some name → p.loader name = none

namespace Prepared

variable {p : Assembly σ}

/-- Printing changes nothing of what a segment is there for. -/
theorem role {a b : Segment} (prepared : Prepared p a b) : a.role = b.role := by
  rcases prepared.2 with rfl | rfl
  · rfl
  · exact (p.resolver.role_printed prepared.1).symm

/-- On neither side a directive is broken. -/
theorem isTidy (literal : p.resolver.IsLiteral (·.isBraceFree = true)) {a b : Segment}
    (prepared : Prepared p a b) : a.isTidy = true ∧ b.isTidy = true := by
  refine ⟨prepared.1.isTidy, ?_⟩
  rcases prepared.2 with rfl | rfl
  · exact prepared.1.isTidy
  · exact Resolver.isTidy_printed literal prepared.1.isTidy

/-- Printed already or not yet, a segment comes to print the same. -/
theorem printed {a b : Segment} (prepared : Prepared p a b) :
    p.resolver.printed b = p.resolver.printed a := by
  rcases prepared.2 with rfl | rfl
  · rfl
  · exact Resolver.printed_printed p.resolver a

/-- Copying and printing go together in either order. -/
theorem copy {a b : Segment} (prepared : Prepared p a b) (index : Nat) :
    Prepared p (a.copy index) (b.copy index) := by
  refine ⟨prepared.1.copy index, ?_⟩
  rcases prepared.2 with rfl | rfl
  · exact .inl rfl
  · cases a with
    | text t => exact .inl rfl
    | directive body =>
        cases silent : Directive.isSilent body with
        | true => exact .inl (by rw [Resolver.printed_of_silent silent])
        | false =>
            right
            rw [prepared.1.printed_copy p.resolver silent, Resolver.printed_of_not_silent silent,
              Segment.copy_text]

/-- A copy refers to nothing, or to what its original refers to. -/
theorem copy_expanded {a b : Segment} (expanded : Expanded p a b) (index : Nat) :
    Expanded p (a.copy index) (b.copy index) := by
  refine ⟨expanded.1.copy index, fun name refers => ?_⟩
  rcases (expanded.1.1.copy_cases index).2 with same | ⟨role, _⟩
  · exact expanded.2 name (same ▸ refers)
  · rw [role] at refers
    exact absurd refers (by simp)

/-- A preparation and a rendering go side by side. -/
theorem sideBySide (literal : p.resolver.IsLiteral (·.isBraceFree = true))
    (markups : ∀ name markup, p.loader name = some markup → IsFlatMail markup) :
    SideBySide p.loader (Prepared p) (Expanded p) where
  narrow := fun expanded => expanded.1
  readable := fun prepared =>
    ⟨Segment.isReadable_of_isTidy (prepared.isTidy literal).1,
      Segment.isReadable_of_isTidy (prepared.isTidy literal).2⟩
  role := fun prepared => prepared.role
  copy := fun expanded index => copy_expanded expanded index
  settled := fun prepared missing => ⟨prepared, missing⟩
  marker := by
    intro a b prepared name refers refusal
    have inside := Segment.name_subset (Segment.isReadable_of_isTidy prepared.1.isTidy) refers
    have flat := Text.isBraceFree_of_subset inside (Segment.isFlat_of_isTidy prepared.1.isTidy)
    exact ⟨⟨.text (refusal.isBraceFree_marker flat), .inl rfl⟩, by simp⟩
  markup := by
    intro name markup found
    obtain ⟨doc, same, flat⟩ := markups name markup found
    exact ⟨doc, same, fun segment here => ⟨(flat segment here).preparable, .inl rfl⟩⟩

/-- What stands on the left is related to itself, as not printed yet. -/
theorem left {first second : Document} (related : List.Forall₂ (Expanded p) first second) :
    ∀ segment ∈ first, Expanded p segment segment := by
  induction related with
  | nil => simp
  | cons one _ ih =>
      intro segment here
      rcases List.mem_cons.1 here with rfl | here
      · exact ⟨⟨one.1.1, .inl rfl⟩, one.2⟩
      · exact ih segment here

variable [Chance σ]

/-- A rendering ends with printing what it has, segment by segment. -/
theorem finishText_render (literal : p.resolver.IsLiteral (·.isBraceFree = true))
    {first second : Document} (related : List.Forall₂ (Expanded p) first second) (run : Run σ) :
    p.finishText .render second.raw run = (Document.raw (first.map p.resolver.printed), run) := by
  have tidy : ∀ segment ∈ second, segment.isTidy = true := by
    induction related with
    | nil => simp
    | cons one _ ih => simpa [(one.1.isTidy literal).2] using ih
  have same : second.map p.resolver.printed = first.map p.resolver.printed := by
    induction related with
    | nil => rfl
    | cons one _ ih =>
        rw [List.map_cons, List.map_cons, one.1.printed,
          ih fun segment here => tidy segment (List.mem_cons_of_mem _ here)]
  simp only [Assembly.finishText, Resolver.print_document literal tidy, same]

/-- What a preparation ends with is what a rendering ends with, but for printing. -/
theorem finishText_leads (literal : p.resolver.IsLiteral (·.isBraceFree = true)) :
    Leads (Expanded p) (Expanded p) (p.finishText .conversion) (p.finishText .render) := by
  intro first second related run
  refine ⟨first, first.map p.resolver.printed, ?_, rfl, ?_, ?_⟩
  · rw [List.forall₂_map_right_iff, List.forall₂_same]
    intro segment here
    exact ⟨⟨(left related segment here).1.1, .inr rfl⟩,
      (left related segment here).2⟩
  · rw [finishText_render literal related]
  · rw [finishText_render literal related]
    rfl

/-- Rendering what a preparation puts out does nothing but print. -/
theorem process_unfolded (inlining : p.inliner = id)
    (literal : p.resolver.IsLiteral (·.isBraceFree = true)) {doc : Document}
    (own : ∀ segment ∈ doc, Expanded p segment segment) (s : σ) :
    (p.process .render (Document.unfold p.limits.loopIterations doc).raw s).1 =
      Document.raw ((Document.unfold p.limits.loopIterations doc).map p.resolver.printed) := by
  have flat : ∀ segment ∈ doc, Preparable segment := fun segment here => (own segment here).1.1
  have unfolded : ∀ segment ∈ Document.unfold p.limits.loopIterations doc,
      Expanded p segment segment :=
    Document.unfold_preserves (P := fun segment => Expanded p segment segment)
      (fun expanded index => copy_expanded expanded index) own
  have tidy : ∀ segment ∈ Document.unfold p.limits.loopIterations doc, segment.isTidy = true :=
    fun segment here => (unfolded segment here).1.1.isTidy
  have inert : ∀ segment ∈ Document.unfold p.limits.loopIterations doc,
      Assembly.Inert p.loader segment := fun segment here =>
    ⟨Segment.isReadable_of_isTidy (tidy segment here), (unfolded segment here).1.1.layout,
      (unfolded segment here).2⟩
  obtain ⟨run, finished⟩ :=
    Assembly.processBehind_of_inert inert .render p.limits.includeDepth [] (Run.start s)
  rw [unfoldLoops_raw fun segment here => Segment.isFlat_of_isTidy (tidy segment here),
    Document.unfold_unfold Preparable.keepsTags flat] at finished
  rw [Assembly.process_text inlining, finished]
  simp only [Assembly.finishText, Resolver.print_document literal tidy]

end Prepared

/-- Rendering a flat mail gives what preparing it and rendering the preparation gives. -/
theorem Assembly.render_prepared [Chance σ] (p : Assembly σ) (inlining : p.inliner = id)
    (literal : p.resolver.IsLiteral (·.isBraceFree = true))
    (markups : ∀ name markup, p.loader name = some markup → IsFlatMail markup) {template : Text}
    (flat : IsFlatMail template) (s s' : σ) :
    (p.process .render (p.process .conversion template s).1 s').1 =
      (p.process .render template s).1 := by
  obtain ⟨mail, rfl, segments⟩ := flat
  have side := Prepared.sideBySide literal markups
  have start : List.Forall₂ (Prepared p) mail mail := by
    rw [List.forall₂_same]
    intro segment here
    exact ⟨(segments segment here).preparable, .inl rfl⟩
  obtain ⟨doc, doc', run, related, prepared, rendered⟩ := side.processBehind_finish rfl rfl
    (Prepared.finishText_leads literal) p.limits.includeDepth [] start (Run.start s)
  have unfolded : List.Forall₂ (Expanded p) (Document.unfold p.limits.loopIterations doc)
      (Document.unfold p.limits.loopIterations doc') :=
    Document.unfold_related side.loopAlike related
  calc (p.process .render (p.process .conversion mail.raw s).1 s').1
      = (p.process .render (Document.unfold p.limits.loopIterations doc).raw s').1 := by
        rw [process_text inlining .conversion, prepared]
        rfl
    _ = Document.raw ((Document.unfold p.limits.loopIterations doc).map p.resolver.printed) :=
        Prepared.process_unfolded inlining literal (Prepared.left related) s'
    _ = (p.finishText .render (Document.unfold p.limits.loopIterations doc').raw run).1 := by
        rw [Prepared.finishText_render literal unfolded]
    _ = (p.process .render mail.raw s).1 := by
        rw [process_text inlining .render, rendered]

/-- A component that names a guest, numbered in a loop, and a city. -/
def guestCard : Document :=
  [.directive "name+, 'Ada'".toList, .text " of ".toList, .directive "city".toList]

/-- A mail that shows two guests. -/
def guestMail : Document :=
  [.directive "loop 2".toList, .directive "include 'card'".toList, .directive "/loop".toList]

/-- An assembly with one component and one value. -/
def guestAssembly : Assembly Supply where
  loader name := if name = "card".toList then some guestCard.raw else none
  resolver := ⟨Table.empty, Table.ofList [("city".toList, .literal "Oslo".toList)]⟩
  limits := {}
  inliner := id

theorem isFlatMail_guestCard : IsFlatMail guestCard.raw := by
  refine ⟨guestCard, rfl, fun segment here => ?_⟩
  simp only [guestCard, List.mem_cons, List.not_mem_nil, or_false] at here
  rcases here with rfl | rfl | rfl
  · have clause : IsClause ('\'' :: ("Ada".toList ++ ['\''])) := .literal (by decide) (by decide)
    have tag := @FlatTag.keyed "name".toList [' '] _ true (by decide) (by decide) clause
    exact @FlatSegment.directive [] _ [] rfl tag rfl
  · exact .text (by decide)
  · exact @FlatSegment.directive [] "city".toList [] rfl (.variable (by decide) (by decide)) rfl

theorem isFlatMail_guestMail : IsFlatMail guestMail.raw := by
  refine ⟨guestMail, rfl, fun segment here => ?_⟩
  simp only [guestMail, List.mem_cons, List.not_mem_nil, or_false] at here
  rcases here with rfl | rfl | rfl
  · have tag := @FlatTag.loop [' '] ['2'] (by decide) (by decide) (by decide) (by decide)
      (by decide) (by decide)
    exact @FlatSegment.directive [] _ [] rfl tag rfl
  · have tag := @FlatTag.reference "include".toList [' '] "card".toList '\'' (by decide)
      (by decide) (by decide) (by decide) (by decide) (by decide)
    exact @FlatSegment.directive [] _ [] rfl tag rfl
  · exact @FlatSegment.directive [] "/loop".toList [] rfl (.word (by decide)) rfl

/-- The mail with two guests, prepared and then rendered. -/
theorem render_prepared_guests :
    (guestAssembly.process .render
        (guestAssembly.process .conversion guestMail.raw (Supply.ofSeed 1)).1
      (Supply.ofSeed 2)).1 = (guestAssembly.process .render guestMail.raw (Supply.ofSeed 1)).1 := by
  refine Assembly.render_prepared guestAssembly rfl (Resolver.IsLiteral.of_entries ?_) ?_
    isFlatMail_guestMail _ _
  · intro entry here
    obtain rfl : entry = ("city".toList, .literal "Oslo".toList) := List.mem_singleton.1 here
    exact ⟨_, rfl, by decide⟩
  · intro name markup found
    simp only [guestAssembly] at found
    split at found
    · rw [← Option.some.inj found]
      exact isFlatMail_guestCard
    · exact absurd found (by simp)

end MailTemplate
