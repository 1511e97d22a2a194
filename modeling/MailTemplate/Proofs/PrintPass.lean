/-
Module: MailTemplate.Proofs.PrintPass
Purpose: Printing is one pass over the segments of a text that resolves one key a directive.
Main exports: Segment.printKey?, Segment.Prints, Document.Prints, print_iff_prints, Resolver.logged,
  Resolver.print_pass
-/
import MailTemplate.Proofs.Undefined

/-!
Printing goes through the segments of a text from left to right and hands a state on from one to the
next.  A segment looks up one key or none.  Nothing that is printed is read again, so the keys are
those of the text as it is written.

To tell how often generators are called, a list of calls is put beside the state: each generator
writes down the key it is called for.  The list does not change what is printed, and in the end it
holds the keys of the directives with a generator, in their order.
-/

namespace MailTemplate

/-! ### The keys of a text -/

/-- The key that a segment looks up when it is printed, if any.  In a directive that prints a value
it stands behind the first comma outside brackets and literals, or else in front of the first bar,
or else it is the body. -/
def Segment.printKey? : Segment → Option Text
  | .text _ => none
  | .directive body =>
      if Directive.isSilent body then none
      else
        match splitTopLevelComma? (Text.trim body) with
        | some (_, clause) =>
            if (unquoted? (Text.trim clause)).isSome then none else some (Text.trim clause)
        | none =>
            match Text.splitFirst '|' (Text.trim body) with
            | some (key, _) => some (Text.trim key)
            | none => some (Text.trim body)

/-- The keys that a document looks up when it is printed, in order. -/
def Document.printKeys (doc : Document) : List Text :=
  doc.filterMap Segment.printKey?

theorem Segment.printKey?_directive (body : Text) :
    (directive body).printKey? = Directive.key? body := by
  rw [printKey?, Directive.key?, Directive.clause]
  congr 1
  cases splitTopLevelComma? (Text.trim body) with
  | none => cases Text.splitFirst '|' (Text.trim body) <;> rfl
  | some parts => cases quoted : unquoted? (Text.trim parts.2) <;> simp [quoted]

theorem Segment.printKey?_text (t : Text) : (text t).printKey? = none :=
  rfl

/-- A silent directive looks up nothing. -/
theorem Segment.printKey?_of_isSilent {body : Text} (silent : Directive.isSilent body = true) :
    (directive body).printKey? = none := by
  rw [printKey?, silent, if_pos rfl]

/-- A literal behind the comma is printed without being looked up. -/
theorem Segment.printKey?_of_unquoted? {body label clause quoted : Text}
    (split : splitTopLevelComma? (Text.trim body) = some (label, clause))
    (quotes : unquoted? (Text.trim clause) = some quoted) :
    (directive body).printKey? = none := by
  simp [printKey?, split, quotes]

theorem Document.printKeys_cons (segment : Segment) (doc : Document) :
    printKeys (segment :: doc) = segment.printKey?.toList ++ printKeys doc := by
  cases key : segment.printKey? <;> simp [printKeys, key]

/-- Each closed extent of a scan is a directive of the text. -/
theorem Segment.mem_ofTokens {raw body : Text} {tokens : List (Token Directive.Extent)}
    (inside : .hit ⟨raw, .closed body⟩ ∈ tokens) (plain : Text) :
    .directive body ∈ ofTokens plain tokens := by
  induction tokens generalizing plain with
  | nil => exact absurd inside List.not_mem_nil
  | cons token tokens ih =>
      rcases List.mem_cons.1 inside with rfl | later
      · exact List.mem_append_right _ List.mem_cons_self
      · match token with
        | .plain c => exact ih later (c :: plain)
        | .hit ⟨_, .closed _⟩ | .hit ⟨_, .unclosed⟩ =>
            exact List.mem_append_right _ (List.mem_cons_of_mem _ (ih later []))

/-- Every key that is looked up is one of the keys of the segments. -/
theorem Directive.mem_printKeys_of_mem_lookups {t key : Text} {position : Nat}
    (looked : (position, key) ∈ lookups t) : key ∈ Document.printKeys (segments t) := by
  obtain ⟨⟨raw, extent⟩, here, own⟩ := mem_lookups_iff.1 looked
  obtain ⟨first, last, scan, _⟩ := Pattern.mem_hitsAt_iff.1 here
  cases extent with
  | unclosed => exact absurd own (by simp [Extent.key?])
  | closed body =>
      have inside : .hit ⟨raw, .closed body⟩ ∈ extent.scan t := by simp [scan]
      exact List.mem_filterMap.2 ⟨.directive body, Segment.mem_ofTokens inside [],
        (Segment.printKey?_directive body).trans own⟩

/-! ### The pass -/

section Pass

variable {σ : Type} [Chance σ]

/-- What a segment prints, by the state in front of it and the state behind it. -/
inductive Segment.Prints (resolver : Resolver σ) : Segment → σ → Text → σ → Prop
  | text (t : Text) (s : σ) : Prints resolver (.text t) s t s
  | silent {body : Text} (silent : Directive.isSilent body = true) (s : σ) :
      Prints resolver (.directive body) s (directive body).raw s
  | literal {body label clause quoted : Text} (speaks : Directive.isSilent body = false)
      (split : splitTopLevelComma? (Text.trim body) = some (label, clause))
      (quotes : unquoted? (Text.trim clause) = some quoted) (s : σ) :
      Prints resolver (.directive body) s quoted s
  | value {body key value : Text} {s after : σ} (looked : (directive body).printKey? = some key)
      (made : resolver.resolve key s = (.ok value, after)) :
      Prints resolver (.directive body) s value after
  | failed {body key : Text} {failure : GenerationFailure} {s after : σ}
      (looked : (directive body).printKey? = some key)
      (made : resolver.resolve key s = (.error failure, after)) :
      Prints resolver (.directive body) s (directive body).raw after

/-- What the segments of a document print one after the other, each from the state that the one in
front of it leaves. -/
inductive Document.Prints (resolver : Resolver σ) : Document → σ → Text → σ → Prop
  | nil (s : σ) : Prints resolver [] s [] s
  | cons {segment : Segment} {doc : Document} {first others : Text} {s middle after : σ}
      (own : segment.Prints resolver s first middle)
      (rest : Prints resolver doc middle others after) :
      Prints resolver (segment :: doc) s (first ++ others) after

namespace Resolver

variable (resolver : Resolver σ)

/-- A segment, printed. -/
def printSegment : Segment → σ → Text × σ
  | .text t, s => (t, s)
  | .directive body, s => resolver.printExtent ⟨(Segment.directive body).raw, .closed body⟩ s

/-- The segments of a document, printed from left to right. -/
def printSegments : Document → σ → Text × σ
  | [], s => ([], s)
  | segment :: doc, s =>
      let (first, s) := resolver.printSegment segment s
      let (others, s) := printSegments doc s
      (first ++ others, s)

variable {resolver}

/-- Where a segment looks up a key, it prints the value, or itself if there is none. -/
theorem printSegment_of_printKey? {body key : Text}
    (looked : (Segment.directive body).printKey? = some key) (s : σ) :
    resolver.printSegment (.directive body) s =
      match resolver.resolve key s with
      | (.ok value, s) => (value, s)
      | (.error _, s) => ((Segment.directive body).raw, s) := by
  rw [Segment.printKey?_directive] at looked
  exact @printExtent_of_key? σ _ ⟨(Segment.directive body).raw, .closed body⟩ key looked resolver s

end Resolver

namespace Segment

variable {resolver : Resolver σ} {segment : Segment} {s after : σ} {out : Text}

/-- What the rules say of a segment is what printing it does. -/
theorem printSegment_of_prints (run : segment.Prints resolver s out after) :
    resolver.printSegment segment s = (out, after) := by
  cases run with
  | text t => rfl
  | silent silent => simp only [Resolver.printSegment, Resolver.printExtent, silent, if_true]
  | literal speaks split quotes =>
      simp [Resolver.printSegment, Resolver.printExtent, Directive.clause, speaks, split, quotes]
  | value looked made => rw [Resolver.printSegment_of_printKey? looked, made]
  | failed looked made => rw [Resolver.printSegment_of_printKey? looked, made]

/-- A directive that prints a value but looks up no key has a literal. -/
theorem exists_literal {body : Text} (speaks : Directive.isSilent body = false)
    (keyless : (directive body).printKey? = none) : ∃ label clause quoted,
      splitTopLevelComma? (Text.trim body) = some (label, clause) ∧
        unquoted? (Text.trim clause) = some quoted := by
  rw [printKey?, speaks] at keyless
  cases split : splitTopLevelComma? (Text.trim body) with
  | none => cases bar : Text.splitFirst '|' (Text.trim body) <;> simp [split, bar] at keyless
  | some parts =>
      cases quotes : unquoted? (Text.trim parts.2) with
      | none => simp [split, quotes] at keyless
      | some quoted => exact ⟨parts.1, parts.2, quoted, rfl, quotes⟩

/-- What printing a segment does is what the rules say. -/
theorem prints_printSegment (resolver : Resolver σ) (segment : Segment) (s : σ) :
    segment.Prints resolver s (resolver.printSegment segment s).1
      (resolver.printSegment segment s).2 := by
  cases segment with
  | text t => exact .text t s
  | directive body =>
      cases silent : Directive.isSilent body with
      | true =>
          have same := printSegment_of_prints (.silent silent s : Prints resolver _ _ _ _)
          rw [same]
          exact .silent silent s
      | false =>
          cases looked : (directive body).printKey? with
          | none =>
              obtain ⟨label, clause, quoted, split, quotes⟩ := exists_literal silent looked
              have run : Prints resolver _ _ _ _ := .literal silent split quotes s
              rw [printSegment_of_prints run]
              exact run
          | some key =>
              rw [Resolver.printSegment_of_printKey? looked]
              cases made : resolver.resolve key s with
              | mk result after =>
                  cases result with
                  | ok value => exact .value looked made
                  | error failure => exact .failed looked made

end Segment

namespace Document

variable {resolver : Resolver σ} {doc : Document} {s after : σ} {out : Text}

/-- The rules tell the whole pass, segment by segment. -/
theorem prints_iff :
    doc.Prints resolver s out after ↔ resolver.printSegments doc s = (out, after) := by
  constructor
  · intro run
    induction run with
    | nil s => rfl
    | cons own _ ih =>
        simp only [Resolver.printSegments, Segment.printSegment_of_prints own, ih]
  · intro same
    induction doc generalizing s out with
    | nil =>
        obtain ⟨rfl, rfl⟩ := Prod.mk.inj same
        exact .nil s
    | cons segment doc ih =>
        obtain ⟨rfl, rfl⟩ := Prod.mk.inj same
        exact .cons (Segment.prints_printSegment resolver segment s) (ih rfl)

end Document

/-- A row of segments that a text is cut into is printed segment by segment. -/
theorem Segmented.print_raw {doc : Document} (segmented : Segmented doc) (resolver : Resolver σ)
    (s : σ) : resolver.print doc.raw s = resolver.printSegments doc s := by
  induction segmented generalizing s with
  | nil => rfl
  | @unclosed t endless =>
      rw [Document.raw_cons, Document.raw_nil, List.append_nil, Segment.raw_text, Resolver.print,
        Pattern.replaceWith_of_read (Directive.read_unclosed endless)]
      rfl
  | @directive body doc delimited _ ih =>
      rw [Document.raw_cons, Resolver.print,
        Pattern.replaceWith_of_read (Directive.read_delimited delimited doc.raw)]
      exact congrArg (fun rest => (_ ++ rest.1, rest.2)) (ih _)
  | @text t doc _ clear seam _ ih =>
      rw [Document.raw_cons, Segment.raw_text, Resolver.print,
        Pattern.replaceWith_of_plain (Directive.scan_text clear (Document.raw_seam seam))]
      exact congrArg (fun rest => (_ ++ rest.1, rest.2)) (ih _)

/-- Printing a text is the pass over its segments. -/
theorem print_iff_prints {resolver : Resolver σ} {t out : Text} {s after : σ} :
    resolver.print t s = (out, after) ↔ Document.Prints resolver (segments t) s out after := by
  obtain ⟨segmented, raw⟩ := segmented_segments t
  rw [Document.prints_iff, ← segmented.print_raw, raw]

end Pass

/-! ### Calls of generators -/

/-- A state with the keys that generators were called for, the first in front. -/
structure Logged (σ : Type) where
  state : σ
  calls : List Text

section Calls

variable {σ : Type}

instance [Chance σ] : Chance (Logged σ) where
  upTo bound s :=
    let (number, state) := Chance.upTo bound s.state
    (number, ⟨state, s.calls⟩)

/-- A value whose generator, if it has one, writes down each call. -/
def VariableValue.logged (key : Text) : VariableValue σ → VariableValue (Logged σ)
  | .literal t => .literal t
  | .oneOf choices => .oneOf choices
  | .generated generator => .generated fun s =>
      let (result, state) := generator s.state
      (result, ⟨state, s.calls ++ [key]⟩)

/-- A table with the values under its keys replaced. -/
def Table.mapValues {α β : Type} (f : Text → α → β) (table : Table α) : Table β where
  entries := table.entries.map fun entry => (entry.1, f entry.1 entry.2)
  ascending := List.pairwise_map.2 table.ascending

theorem Table.entries_mapValues {α β : Type} (f : Text → α → β) (table : Table α) :
    (table.mapValues f).entries = table.entries.map fun entry => (entry.1, f entry.1 entry.2) :=
  rfl

theorem Table.get?_mapValues {α β : Type} (f : Text → α → β) (table : Table α) (key : Text) :
    (table.mapValues f).get? key = (table.get? key).map (f key) := by
  rw [get?, get?, entries_mapValues, lookup_map]

namespace Resolver

/-- The resolver with values that write down the calls of generators. -/
def logged (resolver : Resolver σ) : Resolver (Logged σ) :=
  ⟨resolver.defaults.mapValues VariableValue.logged,
    resolver.overrides.mapValues VariableValue.logged⟩

/-- Whether the value of a key is made by a generator. -/
def isGenerated (resolver : Resolver σ) (key : Text) : Bool :=
  match resolver.lookup key with
  | some (.generated _) => true
  | _ => false

/-- Logging changes no layer. -/
theorem lookup_logged (resolver : Resolver σ) (key : Text) :
    resolver.logged.lookup key = (resolver.lookup key).map (VariableValue.logged key) := by
  rw [lookup, lookup, logged, Table.get?_mapValues, Table.get?_mapValues]
  cases resolver.overrides.get? key <;> rfl

/-- Choices are drawn as without a log. -/
theorem pick_logged [Chance σ] (choices : List Text) (s : σ) (calls : List Text) :
    Chance.pick choices (⟨s, calls⟩ : Logged σ) =
      ((Chance.pick choices s).1, ⟨(Chance.pick choices s).2, calls⟩) := by
  cases choices <;> rfl

/-- Looking up a key calls the generator of its value once, if it has one. -/
theorem resolve_logged [Chance σ] (resolver : Resolver σ) (key : Text) (s : σ)
    (calls : List Text) :
    resolver.logged.resolve key ⟨s, calls⟩ = ((resolver.resolve key s).1,
      ⟨(resolver.resolve key s).2, calls ++ [key].filter resolver.isGenerated⟩) := by
  rw [resolve, resolve, lookup_logged]
  cases found : resolver.lookup key with
  | none => simp [isGenerated, found]
  | some value =>
      cases value with
      | literal t => simp [isGenerated, found, VariableValue.logged, VariableValue.produce]
      | oneOf choices =>
          simp [isGenerated, found, VariableValue.logged, VariableValue.produce, pick_logged]
      | generated generator =>
          cases made : generator s with
          | mk result after =>
              cases result <;>
                simp [isGenerated, found, VariableValue.logged, VariableValue.produce, made]

end Resolver

section Runs

variable [Chance σ] {resolver : Resolver σ} {s after : σ} {out : Text}

/-- Printing a segment calls one generator if its key has one, and no other. -/
theorem Segment.Prints.logged {segment : Segment} (run : segment.Prints resolver s out after)
    (calls : List Text) :
    segment.Prints resolver.logged ⟨s, calls⟩ out
      ⟨after, calls ++ segment.printKey?.toList.filter resolver.isGenerated⟩ := by
  cases run with
  | text =>
      rw [Segment.printKey?_text]
      simpa using Segment.Prints.text _ _
  | silent silent =>
      rw [Segment.printKey?_of_isSilent silent]
      simpa using Segment.Prints.silent silent _
  | literal speaks split quotes =>
      rw [Segment.printKey?_of_unquoted? split quotes]
      simpa using Segment.Prints.literal speaks split quotes _
  | @value body key _ _ _ looked made =>
      have own := resolver.resolve_logged key s calls
      rw [made] at own
      rw [looked]
      exact .value looked own
  | @failed body key _ _ _ looked made =>
      have own := resolver.resolve_logged key s calls
      rw [made] at own
      rw [looked]
      exact .failed looked own

/-- Printing a document calls the generators of its keys, one after the other. -/
theorem Document.Prints.logged {doc : Document} (run : doc.Prints resolver s out after)
    (calls : List Text) :
    doc.Prints resolver.logged ⟨s, calls⟩ out
      ⟨after, calls ++ doc.printKeys.filter resolver.isGenerated⟩ := by
  induction run generalizing calls with
  | nil s => simpa [printKeys] using Document.Prints.nil _
  | cons own _ ih =>
      rw [printKeys_cons, List.filter_append, ← List.append_assoc]
      exact .cons (own.logged calls) (ih _)

end Runs

end Calls

/-! ### Printing a text -/

/-- Printing is one pass over the segments of a text that resolves the key of each directive once.
It calls the generators of these keys in their order and no others, and whatever else a resolver
has makes no difference. -/
theorem Resolver.print_pass {σ : Type} [Chance σ] (resolver : Resolver σ) (t : Text) (s : σ) :
    (∀ out after, resolver.print t s = (out, after) ↔
      Document.Prints resolver (segments t) s out after) ∧
    (∀ calls, resolver.logged.print t ⟨s, calls⟩ = ((resolver.print t s).1,
      ⟨(resolver.print t s).2,
        calls ++ (Document.printKeys (segments t)).filter resolver.isGenerated⟩)) ∧
    ∀ other : Resolver σ,
      (∀ key ∈ Document.printKeys (segments t),
        ∀ s, resolver.resolve key s = other.resolve key s) →
      other.print t s = resolver.print t s := by
  refine ⟨fun out after => print_iff_prints, fun calls => ?_, fun other same => ?_⟩
  · have run : Document.Prints resolver (segments t) s _ _ := print_iff_prints.1 rfl
    exact print_iff_prints.2 (run.logged calls)
  · refine print_congr (fun _ key looked s => (same key ?_ s).symm) s
    exact Directive.mem_printKeys_of_mem_lookups looked

/-- A receipt that numbers its rows. -/
def receipt : Document :=
  [.directive "loop 2".toList, .directive "row".toList, .text ": ".toList,
    .directive "sum, 'free'".toList, .text ", ".toList, .directive "tip|round".toList,
    .text ", ".toList, .directive "total, tax".toList, .text " (".toList, .directive "row".toList,
    .text ")".toList, .directive "/loop".toList]

/-- What is known about the receipt: rows are counted, the value of the tip is a directive of its
own, and the tax cannot be told. -/
def receiptResolver : Resolver Supply :=
  ⟨.ofList [("row".toList, .generated (.counting 0 "No. ".toList)),
    ("tax".toList, .generated (.failing "unknown".toList)),
    ("tip".toList, .literal (Segment.directive "row".toList).raw)], .empty⟩

/-- The receipt, printed. -/
def printedReceipt : Document :=
  [.directive "loop 2".toList, .text "No. 1: free, ".toList, .directive "row".toList,
    .text ", ".toList, .directive "total, tax".toList, .text " (No. 2)".toList,
    .directive "/loop".toList]

/-- The generators of rows and of the tax are called, and a sum would not be looked up. -/
theorem print_pass_receipt :
    receiptResolver.logged.print receipt.raw ⟨.ofSeed 7, []⟩ =
      (printedReceipt.raw, ⟨⟨7, [2]⟩, ["row".toList, "tax".toList, "row".toList]⟩) ∧
    ∀ value, (Resolver.mk receiptResolver.defaults (Table.empty.insert "sum".toList value)).print
      receipt.raw (.ofSeed 7) = receiptResolver.print receipt.raw (.ofSeed 7) := by
  have keys : Document.printKeys (segments receipt.raw) =
      ["row".toList, "tip".toList, "tax".toList, "row".toList] := by decide +kernel
  have generated : ["row".toList, "tip".toList, "tax".toList, "row".toList].filter
      receiptResolver.isGenerated = ["row".toList, "tax".toList, "row".toList] := by decide +kernel
  have printed : receiptResolver.print receipt.raw (.ofSeed 7) =
      (printedReceipt.raw, ⟨7, [2]⟩) := by decide +kernel
  obtain ⟨_, calls, others⟩ := receiptResolver.print_pass receipt.raw (.ofSeed 7)
  refine ⟨?_, fun value => others _ fun key looked s => ?_⟩
  · rw [calls, keys, generated, printed]
    rfl
  · have differs : key ≠ "sum".toList := by
      rw [keys] at looked
      revert key
      decide
    rw [Resolver.resolve, Resolver.resolve, Resolver.lookup, Resolver.lookup,
      Table.get?_insert_of_ne _ _ differs]
    rfl

end MailTemplate
