/-
Module: MailTemplate.Data.Resolver
Purpose: Looking up variables in two layers, custom data over defaults.
Main exports: DataTable, Resolver, Resolver.lookup, Resolver.resolve, Resolver.layer?, Resolver.keys
-/
import MailTemplate.Data.Value
import MailTemplate.Table

/-!
A variable is looked up among the custom data first and then among the defaults, so a custom value shadows
a default of the same name.  A name that neither layer has stands for itself: it stays visible in the
output and is no error.  Only a generator can fail.
-/

namespace MailTemplate

/-- Values of variables by name. -/
abbrev DataTable (σ : Type) := Table (VariableValue σ)

/-- Where a variable comes from. -/
inductive Layer where
  /-- From the defaults alone. -/
  | default
  /-- From the custom data, perhaps over a default. -/
  | custom
deriving Repr, Inhabited, DecidableEq

/-- Two layers of variables. -/
structure Resolver (σ : Type) where
  defaults : DataTable σ
  overrides : DataTable σ

namespace Resolver

variable {σ : Type}

/-- The value of a variable: the custom one, else the default. -/
def lookup (resolver : Resolver σ) (key : Text) : Option (VariableValue σ) :=
  (resolver.overrides.get? key).or (resolver.defaults.get? key)

/-- The text that a variable prints; an unknown one prints its own name. -/
def resolve [Chance σ] (resolver : Resolver σ) (key : Text) (s : σ) :
    Except GenerationFailure Text × σ :=
  match resolver.lookup key with
  | some value => value.produce key s
  | none => (.ok key, s)

/-- Whether either layer has a variable. -/
def contains (resolver : Resolver σ) (key : Text) : Bool :=
  resolver.overrides.contains key || resolver.defaults.contains key

/-- The layer that a variable's value is taken from. -/
def layer? (resolver : Resolver σ) (key : Text) : Option Layer :=
  if resolver.overrides.contains key then some .custom
  else if resolver.defaults.contains key then some .default
  else none

/-- The names of all variables. -/
def names (resolver : Resolver σ) : Names :=
  Names.ofList (resolver.defaults.keys ++ resolver.overrides.keys)

/-- The names of all variables in ascending order. -/
def keys (resolver : Resolver σ) : List Text :=
  resolver.names.keys

/-- The names are those that either layer has. -/
theorem contains_names (resolver : Resolver σ) (key : Text) :
    resolver.names.contains key = resolver.contains key := by
  rw [Bool.eq_iff_iff, names, Names.contains_ofList_iff, List.mem_append, Table.mem_keys_iff,
    Table.mem_keys_iff, contains, Bool.or_eq_true]
  exact or_comm

end Resolver

end MailTemplate
