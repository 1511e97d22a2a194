/-
Module: MailTemplate.Proofs.Inertness
Purpose: When the value of a variable is plain text to a rendering.
Main exports: Text.substitute, Assembly.binding, Assembly.unprinted, Assembly.IsInert, Marked,
  Assembly.isInert, not_isInert_of_component
-/
import MailTemplate.Data.Supply
import MailTemplate.Proofs.Provenance
import MailTemplate.Proofs.SideBySide

/-!
A value is inert in a rendering if all that matters of it is its text: with a mark in its place, and
each mark in the result replaced by the value, the result is the same.

The last pass of a run prints and nothing reads its output, so a value that is printed there is
inert whatever it holds.  What a nested run prints is put into the surrounding text and read again,
so a value that looks like a directive is taken for one: `not_isInert_of_component`.  In tidy texts
a value without braces is inert wherever it is printed, since all that the passes look at lies
between braces.
-/

namespace MailTemplate

variable {σ : Type}

/-- The code points that no standard gives a meaning. -/
def privateUse : Text.Ranges :=
  [(0xE000, 0xF8FF), (0xF0000, 0xFFFFD), (0x100000, 0x10FFFD)]

/-- A mark for private use is no ASCII character. -/
theorem ne_of_privateUse {mark : Char} (reserved : privateUse.contains mark = true) :
    ∀ c : Char, c.toNat < 128 → c ≠ mark := by
  rintro c ascii rfl
  simp only [privateUse, Text.Ranges.contains, List.any_cons, List.any_nil, Bool.or_eq_true,
    Bool.and_eq_true, decide_eq_true_eq, Bool.or_false] at reserved
  omega

namespace Text

/-- A text with a value in the place of each mark. -/
def substitute (mark : Char) (value t : Text) : Text :=
  t.flatMap fun c => if c = mark then value else [c]

variable {mark : Char} {value : Text}

@[simp] theorem substitute_append (s t : Text) :
    substitute mark value (s ++ t) = substitute mark value s ++ substitute mark value t :=
  List.flatMap_append

@[simp] theorem substitute_mark : substitute mark value [mark] = value := by
  simp [substitute]

theorem substitute_of_not_mem {t : Text} (absent : mark ∉ t) : substitute mark value t = t := by
  induction t with
  | nil => rfl
  | cons c t ih =>
      rw [List.mem_cons, not_or] at absent
      rw [← List.singleton_append, substitute_append, ih absent.2]
      simp [substitute, Ne.symm absent.1]

/-- A value without braces brings none into a text. -/
theorem isBraceFree_substitute {t : Text} (flat : t.isBraceFree = true)
    (plain : value.isBraceFree = true) : (substitute mark value t).isBraceFree = true := by
  induction t with
  | nil => rfl
  | cons c t ih =>
      rw [isBraceFree_cons, Bool.and_eq_true] at flat
      rw [← List.singleton_append, substitute_append, isBraceFree_append, ih flat.2, Bool.and_true,
        substitute, List.flatMap_singleton]
      split
      · exact plain
      · simpa using flat.1

theorem within_ne {t : Text} : t.Within (· ≠ mark) ↔ mark ∉ t :=
  ⟨fun within inside => within mark inside rfl, fun absent _ inside same => absent (same ▸ inside)⟩

end Text

/-! ### One variable with another value -/

/-- The resolver with a custom text for one variable. -/
def Resolver.binding (resolver : Resolver σ) (key t : Text) : Resolver σ :=
  { resolver with overrides := resolver.overrides.insert key (.literal t) }

namespace Resolver

variable {resolver : Resolver σ} {key : Text} {P : Text → Prop}

@[simp] theorem lookup_binding_self (resolver : Resolver σ) (key t : Text) :
    (resolver.binding key t).lookup key = some (.literal t) := by
  simp [lookup, binding]

/-- A binding shadows its own key alone. -/
theorem lookup_binding_of_ne {other : Text} (different : other ≠ key) (t : Text) :
    (resolver.binding key t).lookup other = resolver.lookup other := by
  rw [lookup, lookup, binding, Table.get?_insert_of_ne _ _ different]

/-- If the bound text has the property, all values still have it. -/
theorem IsLiteral.binding (literal : resolver.IsLiteral P) (key : Text) {t : Text} (own : P t) :
    (resolver.binding key t).IsLiteral P := by
  intro other value found
  by_cases same : other = key
  · subst same
    rw [lookup_binding_self] at found
    exact ⟨t, (Option.some.inj found).symm, own⟩
  · rw [lookup_binding_of_ne same] at found
    exact literal other value found

theorem IsLiteral.imp {Q : Text → Prop} (literal : resolver.IsLiteral P) (weaker : ∀ t, P t → Q t) :
    resolver.IsLiteral Q := by
  intro key value found
  obtain ⟨t, same, holds⟩ := literal key value found
  exact ⟨t, same, weaker t holds⟩

variable {mark : Char} {value : Text}

/-- What a clause stands for with the value is what it stands for with the mark, the value in its
place. -/
theorem clauseText_binding (literal : resolver.IsLiteral (mark ∉ ·)) {clause : Clause}
    (fresh : mark ∉ clause.text) : (resolver.binding key value).clauseText clause =
      Text.substitute mark value ((resolver.binding key [mark]).clauseText clause) := by
  cases clause with
  | literal t => exact (Text.substitute_of_not_mem fresh).symm
  | «variable» other =>
      by_cases same : other = key
      · subst same
        simp [clauseText, textOf]
      · have unchanged (t : Text) : (resolver.binding key t).clauseText (.variable other) =
            resolver.clauseText (.variable other) := by
          simp only [clauseText, textOf, lookup_binding_of_ne same]
        have absent : mark ∉ resolver.clauseText (.variable other) := clauseText_all literal fresh
        rw [unchanged, unchanged, Text.substitute_of_not_mem absent]

/-- A text is printed alike with the mark and with the value, the value in the place of the mark. -/
theorem replace_binding (literal : resolver.IsLiteral (mark ∉ ·)) {t : Text} (fresh : mark ∉ t) :
    Directive.extent.replace (resolver.binding key value).extentText t =
      Text.substitute mark value
        (Directive.extent.replace (resolver.binding key [mark]).extentText t) := by
  rw [Pattern.replace, Pattern.replace, Text.substitute, List.flatMap_assoc]
  refine List.flatMap_congr fun token inside => ?_
  have raw : mark ∉ token.raw := fun here => fresh (Pattern.raw_subset_of_mem_scan inside here)
  cases token with
  | plain c => exact (Text.substitute_of_not_mem raw).symm
  | hit hit =>
      have kept : hit.raw = Text.substitute mark value hit.raw :=
        (Text.substitute_of_not_mem raw).symm
      change extentText _ hit = Text.substitute mark value (extentText _ hit)
      unfold extentText
      cases extent : hit.value with
      | unclosed => exact kept
      | closed body =>
          simp only
          split
          · exact kept
          · have body : body ⊆ t := by
              simpa [extent, Directive.Extent.inner] using Directive.quotes_extent.subset inside
            refine clauseText_binding literal fun here => fresh (body ?_)
            exact Text.trim_subset _ (Directive.clause_subset _ here)

end Resolver

namespace Assembly

/-- The assembly with a custom text for one variable. -/
def binding (p : Assembly σ) (key t : Text) : Assembly σ :=
  { p with resolver := p.resolver.binding key t }

variable [Chance σ]

/-- What processes the texts behind references. -/
def deeper (p : Assembly σ) (mode : Mode) : Nat → List Text → Text → Run σ → Text × Run σ
  | 0 => fun _ t run => (t, run)
  | room + 1 => p.processBehind mode room

/-- Processing is all passes, over nested runs with less room. -/
theorem processBehind_eq (p : Assembly σ) (mode : Mode) (room : Nat) (chain : List Text) (t : Text)
    (run : Run σ) :
    p.processBehind mode room chain t run =
      p.passes mode room (p.deeper mode room) chain t run := by
  cases room <;> rfl

/-- The text that the last pass of a rendering prints, with what nested runs have put into it. -/
def unprinted (p : Assembly σ) (template : Text) (s : σ) : Text :=
  unfoldLoops p.limits.loopIterations
    (p.placed p.limits.includeDepth (p.deeper .render p.limits.includeDepth) [] template
      (Run.start s)).1

/-- Whether a rendering takes the value of a variable for plain text: the same is rendered with a
mark for the value, if each mark is then replaced by the value. -/
def IsInert (p : Assembly σ) (key value : Text) (mark : Char) (template : Text) (s : σ) : Prop :=
  ((p.binding key value).process .render template s).1 =
    Text.substitute mark value ((p.binding key [mark]).process .render template s).1

variable {p : Assembly σ}

/-- A rendering run prints last, so its result is what printing makes of the text before. -/
theorem process_render (inlining : p.inliner = id) {P : Text → Prop}
    (literal : p.resolver.IsLiteral P) (template : Text) (s : σ) :
    (p.process .render template s).1 =
      Directive.extent.replace p.resolver.extentText (p.unprinted template s) := by
  rw [process_text inlining, processBehind_eq, passes_eq]
  simp only [finishText, Resolver.print_eq literal]
  rfl

/-- Before it is printed, a text holds ASCII characters and those of its sources. -/
theorem unprinted_within {Q : Char → Prop} (ascii : ∀ c : Char, c.toNat < 128 → Q c)
    (markups : ∀ name markup, p.loader name = some markup → markup.Within Q)
    (literal : p.resolver.IsLiteral (Text.Within Q)) {template : Text}
    (within : template.Within Q) (s : σ) : (p.unprinted template s).Within Q := by
  refine unfoldLoops_within ascii _
    (placed_within ascii markups (fun chain t run own => ?_) _ within _)
  unfold deeper
  cases p.limits.includeDepth with
  | zero => exact own
  | succ room => exact processBehind_within ascii markups literal room chain own run

/-- Whatever the value, the last pass does not read what it prints. -/
theorem render_binding (inlining : p.inliner = id) {mark : Char}
    (reserved : privateUse.contains mark = true) {template : Text} (fresh : mark ∉ template)
    (markups : ∀ name markup, p.loader name = some markup → mark ∉ markup)
    (literal : p.resolver.IsLiteral (mark ∉ ·)) (key : Text) {value : Text} (absent : mark ∉ value)
    (s : σ) :
    ((p.binding key value).process .render template s).1 =
      Text.substitute mark value
        (Directive.extent.replace (p.binding key [mark]).resolver.extentText
          ((p.binding key value).unprinted template s)) := by
  have bound : (p.binding key value).resolver.IsLiteral (Text.Within (· ≠ mark)) :=
    (literal.binding key absent).imp fun _ fresh => Text.within_ne.2 fresh
  have within := unprinted_within (p := p.binding key value) (ne_of_privateUse reserved)
    (fun name markup found => Text.within_ne.2 (markups name markup found)) bound
    (Text.within_ne.2 fresh) s
  rw [process_render (p := p.binding key value) inlining bound]
  exact Resolver.replace_binding literal (Text.within_ne.1 within)

end Assembly

/-! ### Values without braces -/

/-- A text of brace-free pieces and of directives that close the literals in them. -/
def Text.IsTidy (t : Text) : Prop :=
  ∃ doc : Document, t = doc.raw ∧ ∀ segment ∈ doc, segment.isTidy = true

/-- A segment in a run with the mark, and the same segment in a run with the value. -/
inductive Marked (mark : Char) (value : Text) : Segment → Segment → Prop where
  | text {t : Text} (flat : t.isBraceFree = true) :
      Marked mark value (.text t) (.text (Text.substitute mark value t))
  | directive {body : Text} (tidy : (Segment.directive body).isTidy = true) (fresh : mark ∉ body) :
      Marked mark value (.directive body) (.directive body)

namespace Marked

variable {mark : Char} {value : Text}

/-- What is tidy and has no mark is the same in both runs. -/
theorem of_fresh {segment : Segment} (tidy : segment.isTidy = true) (fresh : mark ∉ segment.inner) :
    Marked mark value segment segment := by
  cases segment with
  | text t =>
      have marked : Marked mark value (.text t) (.text (Text.substitute mark value t)) := .text tidy
      rwa [Text.substitute_of_not_mem (t := t) fresh] at marked
  | directive body => exact .directive tidy fresh

/-- Neither side of a marked pair breaks a directive. -/
theorem isTidy (plain : value.isBraceFree = true) {a b : Segment} (marked : Marked mark value a b) :
    a.isTidy = true ∧ b.isTidy = true := by
  cases marked with
  | text flat => exact ⟨flat, Text.isBraceFree_substitute flat plain⟩
  | directive tidy fresh => exact ⟨tidy, tidy⟩

/-- A marked row spells the other with the mark in place of the value. -/
theorem raw {first second : Document} (related : List.Forall₂ (Marked mark value) first second)
    (reserved : privateUse.contains mark = true) :
    second.raw = Text.substitute mark value first.raw := by
  induction related with
  | nil => rfl
  | @cons a b first second one _ ih =>
      rw [Document.raw_cons, Document.raw_cons, Text.substitute_append, ih]
      congr 1
      cases one with
      | text flat => rfl
      | @directive body tidy fresh =>
          have ascii := ne_of_privateUse reserved
          refine (Text.substitute_of_not_mem ?_).symm
          simp only [Segment.raw, Directive.opening, Directive.closing, List.mem_append,
            List.mem_cons, List.not_mem_nil, or_false, not_or]
          exact ⟨⟨⟨(ascii '{' (by decide)).symm, (ascii '{' (by decide)).symm⟩, fresh⟩,
            (ascii '}' (by decide)).symm, (ascii '}' (by decide)).symm⟩

/-- A copy of a loop body adds no mark. -/
theorem copy (reserved : privateUse.contains mark = true) {a b : Segment}
    (marked : Marked mark value a b) (index : Nat) :
    Marked mark value (a.copy index) (b.copy index) := by
  cases marked with
  | text flat => exact .text flat
  | @directive body tidy fresh =>
      apply of_fresh (Segment.isTidy_copy tidy index)
      have ascii := ne_of_privateUse reserved
      have number (n : Nat) := Text.within_ofNat ascii n
      cases tag : IndexTag.pattern.valueOf? body with
      | some found =>
          rw [Segment.copy_of_placeholder tag]
          exact Text.within_ne.1 (number _)
      | none =>
          rw [Segment.copy_of_not_placeholder tag]
          apply Text.within_ne.1
          unfold Segment.inner IndexedKey.renumber
          cases split : IndexedKey.split? body with
          | none => exact Text.within_ne.2 fresh
          | some found =>
              obtain ⟨key, rest⟩ := found
              obtain ⟨front, pad, rfl, rfl, _⟩ := IndexedKey.body_of_split? split
              have own := Text.within_ne.2 fresh
              simp only [Text.within_append, Text.within_cons] at own
              have trimmed := Text.Within.of_subset own.1 (Text.trim_subset front)
              simp [trimmed, number, own.2.2.2.2, ascii]

theorem isBraceFree_mark (reserved : privateUse.contains mark = true) :
    Text.isBraceFree [mark] = true := by
  have ascii := ne_of_privateUse reserved
  simp [(ascii '{' (by decide)).symm, (ascii '}' (by decide)).symm]

variable {p : Assembly σ} {key : Text}

/-- Where one side prints the mark, the other prints the value. -/
theorem printed (literal : p.resolver.IsLiteral (mark ∉ ·))
    (plain : p.resolver.IsLiteral (·.isBraceFree = true))
    (reserved : privateUse.contains mark = true) {a b : Segment} (marked : Marked mark value a b) :
    Marked mark value ((p.resolver.binding key [mark]).printed a)
      ((p.resolver.binding key value).printed b) := by
  cases marked with
  | text flat => exact .text flat
  | @directive body tidy fresh =>
      cases silent : Directive.isSilent body with
      | true =>
          rw [Resolver.printed_of_silent silent, Resolver.printed_of_silent silent]
          exact .directive tidy fresh
      | false =>
          have flat := Resolver.isTidy_printed (plain.binding key (isBraceFree_mark reserved)) tidy
          have absent : mark ∉ (Directive.clause (Text.trim body)).text := fun here =>
            fresh (Text.trim_subset _ (Directive.clause_subset _ here))
          rw [Resolver.printed_of_not_silent silent] at flat ⊢
          have same : (p.resolver.binding key value).clauseText
              (Directive.clause (Text.trim body)) = _ :=
            Resolver.clauseText_binding literal absent
          rw [Resolver.printed_of_not_silent silent, same]
          exact .text flat

/-- Marked templates meet the same references, and the markups hold no mark. -/
theorem sideBySide (reserved : privateUse.contains mark = true) (plain : value.isBraceFree = true)
    (markups : ∀ name markup, p.loader name = some markup → mark ∉ markup ∧ markup.IsTidy) :
    SideBySide p.loader (Marked mark value) (Marked mark value) where
  narrow := id
  readable := fun marked =>
    (marked.isTidy plain).imp Segment.isReadable_of_isTidy Segment.isReadable_of_isTidy
  role := by
    intro a b marked
    cases marked with
    | text flat => rfl
    | directive tidy fresh => rfl
  copy := fun marked index => marked.copy reserved index
  settled := fun marked _ => marked
  marker := by
    intro a b marked name refers refusal
    cases marked with
    | text flat => rcases refers with impossible | impossible <;> exact absurd impossible (by simp)
    | @directive body tidy fresh =>
        have inside : name ⊆ body := Segment.name_subset (Segment.isReadable_of_isTidy tidy) refers
        have flat := Text.isBraceFree_of_subset inside (Segment.isFlat_of_isTidy tidy)
        have absent := refusal.marker_within (ne_of_privateUse reserved)
          (Text.within_ne.2 fun here => fresh (inside here))
        exact of_fresh (refusal.isBraceFree_marker flat) (Text.within_ne.1 absent)
  markup := by
    intro name markup found
    obtain ⟨fresh, doc, rfl, tidy⟩ := markups name markup found
    exact ⟨doc, rfl, fun segment here => of_fresh (tidy segment here) fun inside =>
      fresh (List.mem_flatMap.2 ⟨segment, here, segment.inner_subset inside⟩)⟩

/-- Printing keeps marked rows marked. -/
theorem finishText_leads [Chance σ] (reserved : privateUse.contains mark = true)
    (plain : value.isBraceFree = true) (literal : p.resolver.IsLiteral (mark ∉ ·))
    (flat : p.resolver.IsLiteral (·.isBraceFree = true)) :
    Leads (Marked mark value) (Marked mark value) ((p.binding key [mark]).finishText .render)
      ((p.binding key value).finishText .render) := by
  intro first second related run
  have tidy : (∀ segment ∈ first, segment.isTidy = true) ∧
      ∀ segment ∈ second, segment.isTidy = true := by
    induction related with
    | nil => simp
    | cons one _ ih =>
        exact ⟨List.forall_mem_cons.2 ⟨(one.isTidy plain).1, ih.1⟩,
          List.forall_mem_cons.2 ⟨(one.isTidy plain).2, ih.2⟩⟩
  have left := Resolver.print_document
    (flat.binding key (isBraceFree_mark reserved)) tidy.1 run.supply
  have right := Resolver.print_document (flat.binding key plain) tidy.2 run.supply
  refine ⟨first.map (p.resolver.binding key [mark]).printed,
    second.map (p.resolver.binding key value).printed, ?_, congrArg Prod.fst left,
    congrArg Prod.fst right, ?_⟩
  · rw [List.forall₂_map_left_iff, List.forall₂_map_right_iff]
    exact related.imp fun _ _ one => one.printed literal flat reserved
  · simp only [Assembly.finishText, Assembly.binding, left, right]

end Marked

/-- When a value is inert in a rendering.

* Whatever it holds, it is if all of it is printed by the last pass, so that the text in front of
  that pass is the same with the mark.
* If the template, the markups and all values are free of braces but for those of their directives,
  it is wherever it is printed. -/
theorem Assembly.isInert [Chance σ] (p : Assembly σ) (inlining : p.inliner = id) {mark : Char}
    (reserved : privateUse.contains mark = true) {template : Text} (fresh : mark ∉ template)
    (markups : ∀ name markup, p.loader name = some markup → mark ∉ markup)
    (literal : p.resolver.IsLiteral (mark ∉ ·)) (key : Text) {value : Text} (absent : mark ∉ value)
    (s : σ) :
    ((p.binding key value).unprinted template s = (p.binding key [mark]).unprinted template s →
      p.IsInert key value mark template s) ∧
    (template.IsTidy → (∀ name markup, p.loader name = some markup → markup.IsTidy) →
      p.resolver.IsLiteral (·.isBraceFree = true) → value.isBraceFree = true →
      p.IsInert key value mark template s) := by
  constructor
  · intro same
    have marked : (p.binding key [mark]).resolver.IsLiteral fun _ => True :=
      (literal.imp fun _ _ => trivial).binding key trivial
    rw [IsInert, render_binding inlining reserved fresh markups literal key absent, same,
      process_render (p := p.binding key [mark]) inlining marked]
  · rintro ⟨doc, rfl, tidy⟩ markupsTidy flat plain
    -- The marked run and the other go side by side up to the last pass, where the value is printed.
    have side : SideBySide (p.binding key [mark]).loader (Marked mark value) (Marked mark value) :=
      Marked.sideBySide reserved plain fun name markup found =>
        ⟨markups name markup found, markupsTidy name markup found⟩
    have start : List.Forall₂ (Marked mark value) doc doc := by
      rw [List.forall₂_same]
      intro segment here
      exact Marked.of_fresh (tidy segment here) fun inside =>
        fresh (List.mem_flatMap.2 ⟨segment, here, segment.inner_subset inside⟩)
    have loaders : (p.binding key value).loader = (p.binding key [mark]).loader := rfl
    have limits : (p.binding key value).limits = (p.binding key [mark]).limits := rfl
    have leads := side.processBehind_leads loaders limits
      (Marked.finishText_leads reserved plain literal flat) p.limits.includeDepth []
    obtain ⟨first, second, related, text, text', _⟩ := leads doc doc start (Run.start s)
    rw [IsInert, process_text (p := p.binding key value) inlining,
      process_text (p := p.binding key [mark]) inlining]
    exact text'.trans ((Marked.raw related reserved).trans (congrArg _ text.symm))

/-- An assembly with one component, which prints a name, and no values. -/
def badgeAssembly : Assembly Supply where
  loader name := if name = "badge".toList then some (Segment.directive "name".toList).raw else none
  resolver := ⟨Table.empty, Table.empty⟩
  limits := {}
  inliner := id

/-- A mail that is signed with a badge. -/
def badgeMail : Document :=
  [.text "From ".toList, .directive "include 'badge'".toList]

theorem markup_badgeAssembly {name markup : Text}
    (found : badgeAssembly.loader name = some markup) :
    markup = (Segment.directive "name".toList).raw := by
  simp only [badgeAssembly] at found
  split at found
  · exact (Option.some.inj found).symm
  · exact absurd found (by simp)

theorem isLiteral_badgeAssembly (P : Text → Prop) : badgeAssembly.resolver.IsLiteral P :=
  Resolver.IsLiteral.of_entries fun _ listed => absurd listed List.not_mem_nil

/-- A value that looks like a directive, printed by the template, and a name, printed by the
component. -/
theorem isInert_badge :
    badgeAssembly.IsInert "name".toList (Segment.directive "city".toList).raw '\uE000'
      (Segment.directive "name".toList).raw (Supply.ofSeed 0) ∧
    badgeAssembly.IsInert "name".toList "Ada".toList '\uE000' badgeMail.raw (Supply.ofSeed 0) := by
  have fresh : ∀ name markup, badgeAssembly.loader name = some markup → '\uE000' ∉ markup := by
    intro name markup found
    rw [markup_badgeAssembly found]
    decide
  constructor
  · refine (Assembly.isInert badgeAssembly rfl (by decide) (by decide) fresh
      (isLiteral_badgeAssembly _) _ (by decide) _).1 ?_
    decide +kernel
  · refine (Assembly.isInert badgeAssembly rfl (by decide) (by decide) fresh
      (isLiteral_badgeAssembly _) _ (by decide) _).2 ⟨badgeMail, rfl, by decide⟩ ?_
      (isLiteral_badgeAssembly _) (by decide)
    intro name markup found
    exact ⟨[.directive "name".toList], by rw [markup_badgeAssembly found]; rfl, by decide⟩

/-- Values are not inert everywhere: one that a component prints is read again. -/
theorem not_isInert_of_component :
    ¬ ∀ (p : Assembly Supply) (mark : Char) (template key value : Text) (s : Supply),
    p.inliner = id → privateUse.contains mark = true → mark ∉ template →
      (∀ name markup, p.loader name = some markup → mark ∉ name ∧ mark ∉ markup) →
        p.resolver.IsLiteral (mark ∉ ·) → mark ∉ key → mark ∉ value →
          p.IsInert key value mark template s := by
  intro all
  have fresh : ∀ name markup, badgeAssembly.loader name = some markup →
      '\uE000' ∉ name ∧ '\uE000' ∉ markup := by
    intro name markup found
    refine ⟨?_, by rw [markup_badgeAssembly found]; decide⟩
    simp only [badgeAssembly] at found
    split at found
    · rename_i same
      rw [same]
      decide
    · exact absurd found (by simp)
  have inert : badgeAssembly.IsInert _ _ _ _ _ :=
    all badgeAssembly '\uE000' badgeMail.raw "name".toList (Segment.directive "city".toList).raw
      (Supply.ofSeed 0) rfl (by decide) (by decide) fresh (isLiteral_badgeAssembly _)
      (by decide) (by decide)
  revert inert
  unfold Assembly.IsInert
  decide +kernel

end MailTemplate
