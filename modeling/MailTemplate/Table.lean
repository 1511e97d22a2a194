/-
Module: MailTemplate.Table
Purpose: Finite tables keyed by text, in ascending order of their keys.
Main exports: Table, Table.insert, Table.get?, Table.keys, Table.ofList, Names
-/
import MailTemplate.Text.Basic

/-!
Variables, components and engines are kept in tables.  Listings show them in ascending order of their
keys, compared character by character by code point, so a table keeps its entries in that order and holds
each key once.  Inserting under a key that is present replaces its value: the last write wins.
-/

namespace MailTemplate

/-- A finite table with text keys, each key once, in ascending order. -/
structure Table (α : Type) where
  entries : List (Text × α)
  ascending : entries.Pairwise fun a b => a.1.precedes b.1 = true
deriving Repr, DecidableEq

namespace Table

variable {α β : Type}

/-- The table without entries. -/
def empty : Table α := ⟨[], List.Pairwise.nil⟩

instance : Inhabited (Table α) := ⟨empty⟩

/-- Puts an entry at its place in an ascending list, replacing one with the same key. -/
def place (key : Text) (value : α) : List (Text × α) → List (Text × α)
  | [] => [(key, value)]
  | entry :: rest =>
      if key = entry.1 then (key, value) :: rest
      else if key.precedes entry.1 then (key, value) :: entry :: rest
      else entry :: place key value rest

theorem mem_place {key : Text} {value : α} {entries : List (Text × α)} {entry : Text × α}
    (h : entry ∈ place key value entries) : entry = (key, value) ∨ entry ∈ entries := by
  induction entries with
  | nil => simpa [place] using h
  | cons first rest ih =>
      rw [place] at h
      split at h
      · simp only [List.mem_cons] at h ⊢
        rcases h with h | h
        · exact .inl h
        · exact .inr (.inr h)
      · split at h
        · simpa using h
        · simp only [List.mem_cons] at h ⊢
          rcases h with h | h
          · exact .inr (.inl h)
          · rcases ih h with h | h
            · exact .inl h
            · exact .inr (.inr h)

theorem ascending_place (key : Text) (value : α) {entries : List (Text × α)}
    (h : entries.Pairwise fun a b => a.1.precedes b.1 = true) :
    (place key value entries).Pairwise fun a b => a.1.precedes b.1 = true := by
  induction entries with
  | nil => simp [place]
  | cons first rest ih =>
      rw [List.pairwise_cons] at h
      rw [place]
      split
      · rename_i same
        rw [List.pairwise_cons]
        exact ⟨fun other inside => same ▸ h.1 other inside, h.2⟩
      · split
        · rename_i less
          rw [List.pairwise_cons, List.pairwise_cons]
          refine ⟨fun other inside => ?_, h⟩
          rcases List.mem_cons.1 inside with rfl | inside
          · exact less
          · exact Text.precedes_trans less (h.1 other inside)
        · rename_i different notLess
          rw [List.pairwise_cons]
          refine ⟨fun other inside => ?_, ih h.2⟩
          rcases mem_place inside with rfl | inside
          · exact Text.precedes_of_ne different notLess
          · exact h.1 other inside

/-- The table with an entry added or replaced. -/
def insert (table : Table α) (key : Text) (value : α) : Table α :=
  ⟨place key value table.entries, ascending_place key value table.ascending⟩

/-- The value under a key. -/
def get? (table : Table α) (key : Text) : Option α :=
  table.entries.lookup key

/-- Whether a table has a key. -/
def contains (table : Table α) (key : Text) : Bool :=
  (table.get? key).isSome

/-- The keys in ascending order. -/
def keys (table : Table α) : List Text :=
  table.entries.map (·.1)

/-- The number of entries. -/
def size (table : Table α) : Nat :=
  table.entries.length

/-- Adds the entries of a list from left to right, so that of two with one key the later stays. -/
def insertAll (table : Table α) (entries : List (Text × α)) : Table α :=
  entries.foldl (fun table entry => table.insert entry.1 entry.2) table

/-- The table of a list of entries; of two with one key the later stays. -/
def ofList (entries : List (Text × α)) : Table α :=
  empty.insertAll entries

theorem lookup_place_self (key : Text) (value : α) (entries : List (Text × α)) :
    (place key value entries).lookup key = some value := by
  induction entries with
  | nil => simp [place]
  | cons first rest ih =>
      rw [place]
      split
      · simp
      · split
        · simp
        · rename_i different _
          rw [List.lookup_cons, ih]
          have unequal : (key == first.1) = false := by simpa using different
          simp [unequal]

theorem lookup_place_of_ne {key other : Text} (value : α) (entries : List (Text × α))
    (h : other ≠ key) : (place key value entries).lookup other = entries.lookup other := by
  have unequal : (other == key) = false := by simpa using h
  induction entries with
  | nil => simp [place, List.lookup_cons, unequal]
  | cons first rest ih =>
      rw [place]
      split
      · rename_i same
        rw [List.lookup_cons, List.lookup_cons, ← same, unequal]
      · split
        · rw [List.lookup_cons, unequal]
        · rw [List.lookup_cons, List.lookup_cons, ih]

/-- The value written last under a key is the one found there. -/
@[simp] theorem get?_insert_self (table : Table α) (key : Text) (value : α) :
    (table.insert key value).get? key = some value :=
  lookup_place_self key value table.entries

/-- Writing under one key leaves the others as they are. -/
theorem get?_insert_of_ne (table : Table α) {key other : Text} (value : α) (h : other ≠ key) :
    (table.insert key value).get? other = table.get? other :=
  lookup_place_of_ne value table.entries h

/-- A key is listed exactly where a value is found under it. -/
theorem mem_keys_iff (table : Table α) (key : Text) :
    key ∈ table.keys ↔ (table.get? key).isSome = true := by
  unfold keys get?
  induction table.entries with
  | nil => simp
  | cons first rest ih =>
      rw [List.map_cons, List.mem_cons, List.lookup_cons, ih]
      by_cases same : key = first.1
      · simp [same]
      · have unequal : (key == first.1) = false := by simpa using same
        simp [same, unequal]

/-- Writing an entry adds its key and takes none away. -/
theorem contains_insert_iff (table : Table α) (key : Text) (value : α) (other : Text) :
    (table.insert key value).contains other = true ↔
      other = key ∨ table.contains other = true := by
  by_cases same : other = key
  · simp [contains, same]
  · simp [contains, get?_insert_of_ne table value same, same]

theorem contains_insertAll_iff (table : Table α) (entries : List (Text × α)) (key : Text) :
    (table.insertAll entries).contains key = true ↔
      table.contains key = true ∨ key ∈ entries.map Prod.fst := by
  unfold insertAll
  induction entries generalizing table with
  | nil => simp
  | cons entry entries ih =>
      rw [List.foldl_cons, ih, contains_insert_iff, List.map_cons, List.mem_cons]
      constructor
      · rintro ((same | old) | later)
        · exact .inr (.inl same)
        · exact .inl old
        · exact .inr (.inr later)
      · rintro (old | same | later)
        · exact .inl (.inr old)
        · exact .inl (.inl same)
        · exact .inr later

/-- Of the entries that are added, the last one under a key counts, and without one the table. -/
theorem get?_insertAll (table : Table α) (entries : List (Text × α)) (key : Text) :
    (table.insertAll entries).get? key = (entries.reverse.lookup key).or (table.get? key) := by
  unfold insertAll
  induction entries generalizing table with
  | nil => rfl
  | cons entry entries ih =>
      obtain ⟨name, value⟩ := entry
      rw [List.foldl_cons, ih, List.reverse_cons, List.lookup_append, Option.or_assoc,
        List.lookup_cons]
      by_cases same : key = name
      · simp [same]
      · have other : (key == name) = false := by simpa using same
        simp [get?_insert_of_ne table value same, other]

/-- What is found in a list whose values are changed. -/
theorem lookup_map (f : Text → α → β) (entries : List (Text × α)) (key : Text) :
    (entries.map fun entry => (entry.1, f entry.1 entry.2)).lookup key =
      (entries.lookup key).map (f key) := by
  induction entries with
  | nil => rfl
  | cons entry entries ih =>
      rw [List.map_cons, List.lookup_cons, List.lookup_cons, ih]
      cases same : key == entry.1 with
      | false => rfl
      | true => rw [← eq_of_beq same]; rfl

/-- The keys of a table ascend, so each occurs once. -/
theorem keys_ascending (table : Table α) : table.keys.Pairwise fun a b => a.precedes b = true :=
  List.pairwise_map.2 table.ascending

theorem nodup_keys (table : Table α) : table.keys.Nodup :=
  table.keys_ascending.imp fun ascends same => by
    rw [same, Text.precedes_irrefl] at ascends
    exact absurd ascends Bool.false_ne_true

end Table

/-- A set of names. -/
abbrev Names := Table Unit

/-- The set of the names in a list. -/
def Names.ofList (names : List Text) : Names :=
  Table.ofList (names.map fun name => (name, ()))

/-- The names in such a set are those of the list. -/
theorem Names.contains_ofList_iff (names : List Text) (name : Text) :
    (Names.ofList names).contains name = true ↔ name ∈ names := by
  have absent : (Table.empty : Names).contains name = false := rfl
  rw [ofList, Table.ofList, Table.contains_insertAll_iff, absent, List.map_map]
  simp [Function.comp_def]

end MailTemplate
