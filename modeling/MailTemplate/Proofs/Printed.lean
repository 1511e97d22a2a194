/-
Module: MailTemplate.Proofs.Printed
Purpose: Printing a document segment by segment, with fixed values.
Main exports: Directive.closingOnto_body, Directive.clause_subset, Resolver.IsLiteral,
  Resolver.textOf, Resolver.printed, Resolver.print_document, Resolver.printed_printed
-/
import MailTemplate.Proofs.Closing
import MailTemplate.Proofs.LoopCopy

/-!
A directive without inner braces that closes its literals ends at its first two closing braces, so a
tidy document is printed segment by segment.  If all values are fixed texts, printing leaves the
state alone and what a segment prints is a function of the segment: `Resolver.printed`.
-/

namespace MailTemplate

namespace Directive

/-- In a body without braces only an open literal keeps a directive from ending. -/
theorem closingOnto_body {body taken : Text} {previous : Char} {quote : Option Char}
    (flat : body.isBraceFree = true) (closed : quoteBehind quote previous body = none)
    (after : Text) :
    closingOnto taken previous quote 0 (body ++ '}' :: '}' :: after) =
      some (taken.reverse ++ body, after) := by
  induction body generalizing taken previous quote with
  | nil =>
      obtain rfl : quote = none := closed
      rw [List.nil_append, closingOnto_cons]
      simp [stopsAt]
  | cons c body ih =>
      rw [Text.isBraceFree_cons, Bool.and_eq_true, Bool.and_eq_true] at flat
      have opens : c ≠ '{' := by simpa using flat.1.1
      have closes : c ≠ '}' := by simpa using flat.1.2
      have goes : stopsAt quote 0 c (body ++ '}' :: '}' :: after) = false := by
        simp [stopsAt, closes]
      have level : depthAfter quote previous 0 c = 0 := by simp [depthAfter, opens, closes]
      rw [List.cons_append, closingOnto_cons, goes, if_neg Bool.false_ne_true, level,
        ih flat.2 closed, List.reverse_cons, List.append_assoc, List.singleton_append]

/-- Directives begin with a brace, whatever is inside. -/
theorem bracketed_extent : extent.Bracketed := by
  intro t hit rest found
  simp only [extent] at found
  split at found
  · exact absurd found (by simp)
  · split at found <;>
    · simp only [Option.some.injEq, Prod.mk.injEq] at found
      rw [← found.1]
      exact ⟨_, by simp only [List.append_assoc]; rfl⟩

/-- An opening is always a hit. -/
theorem exists_read_opening (t : Text) : ∃ found, extent.read (opening ++ t) = some found := by
  simp only [extent, Text.dropPrefix?_append]
  split <;> exact ⟨_, rfl⟩

/-- A tidy directive reaches to its closing braces. -/
theorem readsWhole_extent {body : Text} (flat : body.isBraceFree = true)
    (closed : closesQuotes body = true) :
    extent.ReadsWhole body ∧ extent.valueOf? body = some (.closed body) := by
  refine Pattern.readsWhole_of_read fun rest => ?_
  have opened : Text.dropPrefix? opening ((Segment.directive body).raw ++ rest) =
      some (body ++ '}' :: '}' :: rest) := by
    rw [Segment.raw_directive_append]
    rfl
  have ends : closing? '{' (body ++ '}' :: '}' :: rest) = some (body, rest) := by
    have outside : quoteBehind none '{' body = none := by simpa [closesQuotes] using closed
    exact closingOnto_body flat outside rest
  simp only [extent, opened, ends]
  rfl

end Directive

/-! ### Clauses -/

/-- Splitting at a comma takes out that comma alone. -/
theorem splitTopLevelCommaOnto_append {taken t before after : Text} {previous : Char}
    {quote : Option Char}
    {depth : Nat} (h : splitTopLevelCommaOnto taken previous quote depth t = some (before, after)) :
    before ++ ',' :: after = taken.reverse ++ t := by
  induction t generalizing taken previous quote depth with
  | nil => simp [splitTopLevelCommaOnto] at h
  | cons c rest ih =>
      simp only [splitTopLevelCommaOnto] at h
      split at h
      · simpa using ih h
      · split at h
        · simpa using ih h
        · split at h
          · simpa using ih h
          · split at h
            · rename_i comma
              simp only [Option.some.injEq, Prod.mk.injEq] at h
              obtain ⟨rfl, rfl⟩ := h
              simp only [Bool.and_eq_true, beq_iff_eq] at comma
              rw [comma.1]
            · simpa using ih h

/-- A body is what stands on both sides of the comma it is split at. -/
theorem splitTopLevelComma?_append {body before after : Text}
    (h : splitTopLevelComma? body = some (before, after)) : before ++ ',' :: after = body := by
  simpa using splitTopLevelCommaOnto_append h

/-- Taking quote marks off adds no character. -/
theorem unquoted?_subset {t inner : Text} (h : unquoted? t = some inner) : inner ⊆ t := by
  cases t with
  | nil => simp [unquoted?] at h
  | cons c rest =>
      simp only [unquoted?] at h
      split at h
      · rw [← Option.some.inj h]
        intro d inside
        exact List.mem_cons_of_mem _ (List.dropLast_subset rest inside)
      · exact absurd h (by simp)

/-- The text of a clause. -/
def Clause.text : Clause → Text
  | .literal t => t
  | .variable key => key

/-- A clause is written in the body of its directive. -/
theorem Directive.clause_subset (body : Text) : (clause body).text ⊆ body := by
  unfold clause
  split
  · rename_i before after split
    have behind : after ⊆ body := by
      rw [← splitTopLevelComma?_append split]
      intro c inside
      exact List.mem_append_right _ (List.mem_cons_of_mem _ inside)
    have trimmed : Text.trim after ⊆ body := fun c inside => behind (Text.trim_subset after inside)
    simp only
    split
    · rename_i t literal
      intro c inside
      exact trimmed (unquoted?_subset literal inside)
    · exact trimmed
  · split
    · rename_i key method split
      obtain ⟨rfl, _⟩ := Text.splitFirst_eq_some_iff.1 split
      intro c inside
      exact List.mem_append_left _ (Text.trim_subset key inside)
    · exact List.Subset.refl _

/-! ### Printing fixed values -/

namespace Resolver

variable {σ : Type}

/-- All values are fixed texts with a property. -/
def IsLiteral (resolver : Resolver σ) (P : Text → Prop) : Prop :=
  ∀ key value, resolver.lookup key = some value → ∃ t, value = .literal t ∧ P t

/-- It is enough that both layers hold nothing but such texts. -/
theorem IsLiteral.of_entries {resolver : Resolver σ} {P : Text → Prop}
    (all : ∀ entry ∈ resolver.overrides.entries ++ resolver.defaults.entries,
      ∃ t, entry.2 = .literal t ∧ P t) : resolver.IsLiteral P := by
  have listed {entries : List (Text × VariableValue σ)} {key : Text} {value : VariableValue σ}
      (found : entries.lookup key = some value) : (key, value) ∈ entries := by
    obtain ⟨front, behind, rfl, _⟩ := List.lookup_eq_some_iff.1 found
    simp
  intro key value found
  rcases Option.or_eq_some_iff.1 found with custom | ⟨_, default⟩
  · exact all (key, value) (List.mem_append_left _ (listed custom))
  · exact all (key, value) (List.mem_append_right _ (listed default))

/-- The text that a variable prints if its value is fixed. -/
def textOf (resolver : Resolver σ) (key : Text) : Text :=
  match resolver.lookup key with
  | some (.literal t) => t
  | _ => key

/-- The text that a clause stands for. -/
def clauseText (resolver : Resolver σ) : Clause → Text
  | .literal t => t
  | .variable key => resolver.textOf key

/-- What is printed for a directive. -/
def extentText (resolver : Resolver σ) (hit : Hit Directive.Extent) : Text :=
  match hit.value with
  | .unclosed => hit.raw
  | .closed body =>
      if Directive.isSilent body then hit.raw
      else resolver.clauseText (Directive.clause (Text.trim body))

/-- What a variable prints is its own name or a value. -/
theorem textOf_cases {resolver : Resolver σ} {P : Text → Prop} (literal : resolver.IsLiteral P)
    (key : Text) :
    resolver.lookup key = none ∧ resolver.textOf key = key ∨
      resolver.lookup key = some (.literal (resolver.textOf key)) ∧ P (resolver.textOf key) := by
  cases found : resolver.lookup key with
  | none => exact .inl ⟨rfl, by simp [textOf, found]⟩
  | some value =>
      obtain ⟨t, rfl, holds⟩ := literal key value found
      have same : resolver.textOf key = t := by simp [textOf, found]
      exact .inr ⟨by rw [same], same ▸ holds⟩

variable {resolver : Resolver σ} {P : Text → Prop}

/-- A segment with what it prints in its place. -/
def printed (resolver : Resolver σ) : Segment → Segment
  | .text t => .text t
  | .directive body =>
      if Directive.isSilent body then .directive body
      else .text (resolver.clauseText (Directive.clause (Text.trim body)))

@[simp] theorem printed_text (resolver : Resolver σ) (t : Text) :
    resolver.printed (.text t) = .text t := rfl

/-- A silent directive stays as it is written. -/
theorem printed_of_silent {body : Text} (silent : Directive.isSilent body = true)
    (resolver : Resolver σ) : resolver.printed (.directive body) = .directive body := by
  simp [printed, silent]

/-- Another directive is printed as its clause says. -/
theorem printed_of_not_silent {body : Text} (speaks : Directive.isSilent body = false)
    (resolver : Resolver σ) : resolver.printed (.directive body) =
      .text (resolver.clauseText (Directive.clause (Text.trim body))) := by
  simp [printed, speaks]

/-- Printing once more changes nothing. -/
theorem printed_printed (resolver : Resolver σ) (segment : Segment) :
    resolver.printed (resolver.printed segment) = resolver.printed segment := by
  cases segment with
  | text t => rfl
  | directive body =>
      cases silent : Directive.isSilent body with
      | true => rw [printed_of_silent silent, printed_of_silent silent]
      | false => rw [printed_of_not_silent silent, printed_text]

/-- Every character that a clause stands for is written in it or in a value. -/
theorem clauseText_all (literal : resolver.IsLiteral P) {clause : Clause} (own : P clause.text) :
    P (resolver.clauseText clause) := by
  cases clause with
  | literal t => exact own
  | «variable» key =>
      rcases textOf_cases literal key with ⟨_, same⟩ | ⟨_, holds⟩
      · rw [clauseText, same]
        exact own
      · exact holds

/-- What is printed for a tidy segment is tidy. -/
theorem isTidy_printed (literal : resolver.IsLiteral (·.isBraceFree = true)) {segment : Segment}
    (tidy : segment.isTidy = true) : (resolver.printed segment).isTidy = true := by
  cases segment with
  | text t => exact tidy
  | directive body =>
      cases silent : Directive.isSilent body with
      | true => rwa [printed_of_silent silent]
      | false =>
          rw [Segment.isTidy, Bool.and_eq_true] at tidy
          rw [printed_of_not_silent silent]
          refine clauseText_all literal (Text.isBraceFree_of_subset ?_ tidy.1)
          exact fun c inside =>
            Text.trim_subset body (Directive.clause_subset (Text.trim body) inside)

variable [Chance σ]

/-- Where all values are literal, resolving asks for no chance. -/
theorem resolve_eq (literal : resolver.IsLiteral P) (key : Text) (s : σ) :
    resolver.resolve key s = (.ok (resolver.textOf key), s) := by
  rcases textOf_cases literal key with ⟨found, same⟩ | ⟨found, _⟩
  · rw [same]
    simp [resolve, found]
  · rw [resolve, found]
    rfl

/-- Where all values are literal, printing asks for no chance. -/
theorem printExtent_eq (literal : resolver.IsLiteral P) (hit : Hit Directive.Extent) (s : σ) :
    resolver.printExtent hit s = (resolver.extentText hit, s) := by
  unfold printExtent extentText
  cases hit.value with
  | unclosed => rfl
  | closed body =>
      simp only
      split
      · rfl
      · cases Directive.clause (Text.trim body) with
        | literal t => rfl
        | «variable» key => simp only [resolve_eq literal, clauseText]

/-- Printing fixed values leaves the state alone. -/
theorem print_eq (literal : resolver.IsLiteral P) (t : Text) (s : σ) :
    resolver.print t s = (Directive.extent.replace resolver.extentText t, s) :=
  Pattern.replaceWith_stateless (fun hit => printExtent_eq literal hit s) Directive.extent t

/-- A tidy document is printed segment by segment. -/
theorem print_document (literal : resolver.IsLiteral P) {doc : Document}
    (tidy : ∀ segment ∈ doc, segment.isTidy = true) (s : σ) :
    resolver.print doc.raw s = (Document.raw (doc.map resolver.printed), s) := by
  have reads (body : Text) (here : Segment.directive body ∈ doc) :
      body.isBraceFree = true ∧ Directive.extent.ReadsWhole body ∧
        Directive.extent.valueOf? body = some (.closed body) := by
    have both := tidy _ here
    rw [Segment.isTidy, Bool.and_eq_true] at both
    exact ⟨both.1, Directive.readsWhole_extent both.1 both.2⟩
  rw [print_eq literal]
  refine congrArg (·, s) (Pattern.replace_document Directive.bracketed_extent resolver.printed
    (fun segment here => Segment.isFlat_of_isTidy (tidy segment here))
    (fun body here => (reads body here).2.1.staysInside) (fun _ => rfl) fun body here => ?_)
  obtain ⟨flat, whole, value⟩ := reads body here
  rw [Pattern.replace_directive Directive.bracketed_extent flat, whole.read_eq, value]
  simp only [Option.map_some, extentText, printed]
  split <;> simp

end Resolver

end MailTemplate
