/-
Module: MailTemplate.Toml.Decode
Purpose: Reading texts, counts, truth values and records out of TOML documents.
Main exports: Toml.text?, Toml.texts?, Toml.count?, Toml.flag?, Toml.fields?, Toml.record?, Toml.required?,
  Toml.optional?, Toml.withDefault?, Toml.details
-/
import MailTemplate.Text.Numeral
import MailTemplate.Toml.Datum

/-!
A record is a table whose keys are the names of its fields; other keys are ignored.  An array is a record
too: its items are the fields in order, and further items are ignored.
-/

namespace MailTemplate

namespace Toml

/-- What stands for the details about a document that cannot be read. -/
def details : Text := "<toml>".toList

/-- The text of a string. -/
def text? : Datum → Option Text
  | .string t => some t
  | _ => none

/-- The texts of an array of strings. -/
def texts? : Datum → Option (List Text)
  | .array items => items.mapM text?
  | _ => none

/-- A count within the limit of counts. -/
def count? : Datum → Option Nat
  | .integer n => if 0 ≤ n && n.toNat ≤ countLimit then some n.toNat else none
  | _ => none

/-- A truth value. -/
def flag? : Datum → Option Bool
  | .boolean b => some b
  | _ => none

/-- The fields of a table. -/
def fields? : Datum → Option Fields
  | .table fields => some fields
  | _ => none

/-- The data in the fields of a record, in the order of their names. -/
def record? (names : List Text) : Datum → Option (List (Option Datum))
  | .array items => some ((List.range names.length).map fun index => items[index]?)
  | datum => (fields? datum).map fun fields => names.map fun name => fields.lookup name

/-- The value of a field that a record must have. -/
def required? {α : Type} (read : Datum → Option α) (datum : Option Datum) : Option α :=
  datum.bind read

/-- The value of a field that a record may have. -/
def optional? {α : Type} (read : Datum → Option α) : Option Datum → Option (Option α)
  | none => some none
  | some datum => (read datum).map some

/-- The value of a field, or a usual one if a record does not have it. -/
def withDefault? {α : Type} (usual : α) (read : Datum → Option α) : Option Datum → Option α
  | none => some usual
  | some datum => read datum

end Toml

end MailTemplate
