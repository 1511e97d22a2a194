/-
Module: MailTemplate.Toml.Value
Purpose: The values of a TOML document, and how its tables come about.
Main exports: Toml.TableKind, Toml.Value, Toml.Entries, Toml.addKey?, Toml.openTable?, Toml.appendTable?
-/
import MailTemplate.Text.Basic

/-!
A table can be written in four ways, and what may be added to it later depends on which:

* by a header of its own: its keys stand under the header, and no second header may name it;
* implied by a longer header: a header may still name it;
* by a dotted key: other dotted keys may add to it, a header may not;
* inline in braces: nothing may be added to it.

A header with doubled brackets appends a table to an array that only such headers make; a path that leads
through the array means its last table.  No key may be given twice.
-/

namespace MailTemplate

namespace Toml

/-- How a table is written. -/
inductive TableKind where
  | header
  | implied
  | dotted
  | inline
deriving Repr, Inhabited, DecidableEq

/-- A value of a document.  Of floating-point numbers nothing is kept. -/
inductive Value where
  | string (t : Text)
  | integer (n : Int)
  | float
  | boolean (b : Bool)
  /-- A date, a time or both, in their common form. -/
  | dateTime (t : Text)
  /-- An array; `ofTables` if it is made by headers. -/
  | array (ofTables : Bool) (items : List Value)
  | table (kind : TableKind) (entries : List (Text × Value))
deriving Repr, Inhabited

/-- The entries of a table in the order of writing. -/
abbrev Entries := List (Text × Value)

/-- Puts a value under a key, in the place of the one that is there or behind the others. -/
def setEntry (key : Text) (value : Value) : Entries → Entries
  | [] => [(key, value)]
  | entry :: entries =>
      if entry.1 = key then (key, value) :: entries else entry :: setEntry key value entries

/-- The deepest nesting of values in brackets and braces, and the greatest number of parts of a key. -/
def nestingLimit : Nat := 80

/-- Changes the table at the end of a path, making the tables on the way that do not exist.  A path of a
dotted key makes dotted tables and may not lead through tables that have a header. -/
def descend? (dotted : Bool) (edit : TableKind → Entries → Option Entries) :
    List Text → TableKind → Entries → Option Entries
  | [], kind, entries => edit kind entries
  | key :: path, _, entries =>
      match entries.lookup key with
      | none =>
          let kind := if dotted then .dotted else .implied
          (descend? dotted edit path kind []).map fun inner => setEntry key (.table kind inner) entries
      | some (.table kind inner) =>
          if kind == .inline || (dotted && kind == .header) then none
          else (descend? dotted edit path kind inner).map fun inner => setEntry key (.table kind inner) entries
      | some (.array true items) =>
          match items.reverse with
          | .table kind inner :: before =>
              (descend? dotted edit path kind inner).map fun inner =>
                setEntry key (.array true (before.reverse ++ [.table kind inner])) entries
          | _ => none
      | some _ => none

/-- Adds a key to the table it belongs to, unless it is there.  A dotted key may only add to tables that
are made by dotted keys, a plain one only to others. -/
def addTo? (plain : Bool) (key : Text) (value : Value) (kind : TableKind) (entries : Entries) :
    Option Entries :=
  if (kind == .dotted) == plain then none
  else if (entries.lookup key).isSome then none
  else some (entries ++ [(key, value)])

/-- Adds a value under a dotted key of `path` and `key` to a table. -/
def addKey? (path : List Text) (key : Text) (value : Value) (kind : TableKind) (entries : Entries) :
    Option Entries :=
  if nestingLimit ≤ path.length then none
  else descend? true (addTo? path.isEmpty key value) path kind entries

/-- Opens the table that a header names. -/
def openTable? (path : List Text) (key : Text) (entries : Entries) : Option Entries :=
  if nestingLimit ≤ path.length then none
  else
    descend? false
      (fun _ entries =>
        match entries.lookup key with
        | none => some (entries ++ [(key, .table .header [])])
        | some (.table .implied inner) => some (setEntry key (.table .header inner) entries)
        | some _ => none)
      path .header entries

/-- Appends a table to the array that a header with doubled brackets names. -/
def appendTable? (path : List Text) (key : Text) (entries : Entries) : Option Entries :=
  if nestingLimit ≤ path.length then none
  else
    descend? false
      (fun _ entries =>
        match entries.lookup key with
        | none => some (entries ++ [(key, .array true [.table .header []])])
        | some (.array true items) => some (setEntry key (.array true (items ++ [.table .header []])) entries)
        | some _ => none)
      path .header entries

end Toml

end MailTemplate
