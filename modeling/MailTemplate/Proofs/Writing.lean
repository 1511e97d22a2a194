/-
Module: MailTemplate.Proofs.Writing
Purpose: What making directories and writing a file change in a tree, and what they leave.
Main exports: FileTree.at?, FileTree.Keeps, FileTree.Keeps.follow, FileTree.Puts,
  FileTree.puts_insert, FileTree.makeDirectory_spec, FileTree.write_spec, FileTree.OnlyMade,
  FileTree.Makes, makeDirectoriesWithin_run, FileTree.OnlyWrote, FileTree.Refuses, writeThrough_run
-/
import MailTemplate.Proofs.FileTree
import Mathlib.Logic.Relation

/-!
A tree is seen place by place: at each place stands nothing, a file with its text, or a directory.
Making a directory and writing a file change what stands at one place, and at no other, not even at
those above and below.

Everything that stood before still stands, files perhaps with another text.  So a path that led to a
directory leads to it still, and the steps of one command can be put together: of the places that it
changes, one is where the output path leads, and to all others a directory leads that this path lies
in, as it is written.

When writing fails, the tree as it is left has the reason: it has no place for a directory or for
the file.
-/

namespace MailTemplate

/-! ### Last names and parents -/

namespace Path

/-- A path whose last piece that is not empty is a name leads to that name at last. -/
theorem names_of_lastName? {path : Path} {name : Text} (last : lastName? path = some name) :
    names path = (names path).dropLast ++ [name] ∧ name ≠ up := by
  obtain ⟨found, proper⟩ := Option.filter_eq_some_iff.1 last
  obtain ⟨dot, above⟩ : name ≠ ['.'] ∧ name ≠ up := by simpa using proper
  obtain ⟨busy, early, late, whole, empty⟩ := List.find?_eq_some_iff_append.1 found
  have solid : isIdle name = false := by
    simp only [Bool.not_eq_true'] at busy
    simp [isIdle, busy, dot]
  have nothing : early.filter (fun piece => !isIdle piece) = [] :=
    List.filter_eq_nil_iff.2 fun piece inside => by
      have own := empty piece inside
      simp only [Bool.not_not] at own
      simp [isIdle, own]
  have split : names path = (late.filter fun piece => !isIdle piece).reverse ++ [name] := by
    rw [names, ← List.reverse_reverse (pieces path), whole, List.filter_reverse,
      List.filter_append, nothing, List.filter_cons_of_pos (by simp [solid])]
    simp
  exact ⟨by rw [split, List.dropLast_concat], above⟩

/-- A path without its last piece is shorter. -/
theorem length_of_dropLast? {beginning body parent : Path}
    (dropped : dropLast? beginning body = some parent) :
    parent.length < beginning.length + body.length := by
  rw [dropLast?] at dropped
  split at dropped
  · exact absurd dropped (by simp)
  · rename_i last before split
    obtain rfl := Option.some.inj dropped
    rw [List.length_append, Nat.add_lt_add_iff_left]
    obtain ⟨early, whole⟩ := List.dropWhile_suffix isIdle (l := (pieces body).reverse)
    obtain ⟨more, rest⟩ := List.dropWhile_suffix isIdle (l := before)
    rw [split, ← rest, List.append_cons, ← List.append_assoc, ← List.reverse_inj,
      List.reverse_append, List.reverse_reverse] at whole
    have joined := join_pieces body
    rw [← whole] at joined
    by_cases nothing : (before.dropWhile isIdle).reverse = []
    · rw [nothing]
      refine List.length_pos_iff.2 ?_
      rintro rfl
      have idle : (pieces []).reverse.dropWhile isIdle = [] := by decide
      exact absurd (idle.symm.trans split) (by simp)
    · rw [Text.join_rows _ nothing (by simp)] at joined
      rw [← joined]
      simp only [List.length_append, List.length_cons]
      omega

/-- The directory that a path lies in has a shorter path. -/
theorem length_of_parent? {path parent : Path} (above : parent? path = some parent) :
    parent.length < path.length := by
  unfold parent? at above
  split at above
  · have shorter := length_of_dropLast? above
    simp at shorter ⊢
    omega
  · obtain rfl := Option.some.inj above
    decide
  · rename_i body
    rcases Option.or_eq_some_iff.1 above with dropped | ⟨_, here⟩
    · have shorter := length_of_dropLast? dropped
      simp at shorter ⊢
      omega
    · obtain rfl := Option.some.inj here
      simp
  · simpa using length_of_dropLast? above

end Path

/-! ### What stands at a place -/

namespace FileNode

/-- A node by itself: a file with its text, a directory without its entries. -/
def surface : FileNode → FileNode
  | .file text => .file text
  | .directory _ => .empty

theorem kind_surface (node : FileNode) : node.surface.kind = node.kind := by
  cases node <;> rfl

theorem surface_of_entries_eq_nil {node : FileNode} (bare : node.entries = []) :
    node.surface = node := by
  cases node with
  | file text => rfl
  | directory entries => rw [show entries = [] from bare]; rfl

theorem find?_of_entries_eq_nil {node : FileNode} (bare : node.entries = []) (name : Text)
    (names : List Text) : node.find? (name :: names) = none := by
  rw [find?, bare]
  rfl

/-- Putting an entry changes what is under its name alone. -/
theorem lookup_putEntry (name : Text) (node : FileNode) (entries : List (Text × FileNode))
    (other : Text) :
    (putEntry name node entries).lookup other =
      if other = name then some node else entries.lookup other := by
  induction entries with
  | nil =>
      rw [putEntry, List.lookup_cons]
      cases same : other == name <;> simp_all
  | cons entry entries ih =>
      obtain ⟨first, standing⟩ := entry
      rw [putEntry]
      by_cases here : first = name
      · subst here
        rw [if_pos rfl, List.lookup_cons, List.lookup_cons]
        cases same : other == first <;> simp_all
      · rw [if_neg here, List.lookup_cons, List.lookup_cons, ih]
        cases same : other == first with
        | false => rfl
        | true =>
            obtain rfl := eq_of_beq same
            exact (if_neg here).symm

/-- Names lead on through the entries of a directory. -/
theorem find?_concat {node : FileNode} {place : List Text} {entries : List (Text × FileNode)}
    (here : node.find? place = some (.directory entries)) (name : Text) (rest : List Text) :
    node.find? (place ++ name :: rest) =
      (entries.lookup name).bind fun inner => inner.find? rest := by
  rw [find?_append, here, Option.bind_some, find?, FileNode.entries]
  cases entries.lookup name <;> rfl

/-- Below a place where a node is put stands what stands below the node. -/
theorem find?_insert_append (inner : FileNode) (place rest : List Text) (node : FileNode) :
    (insert inner place node).find? (place ++ rest) = inner.find? rest := by
  induction place generalizing node with
  | nil => rfl
  | cons name place ih =>
      rw [insert, List.cons_append, find?, FileNode.entries, lookup_putEntry, if_pos rfl]
      exact ih _

/-- Putting a node into a directory changes nothing outside. -/
theorem surface_find?_insert (inner : FileNode) {place : List Text} {name : Text}
    {node : FileNode} {entries : List (Text × FileNode)}
    (here : node.find? place = some (.directory entries)) {other : List Text}
    (outside : ¬ place ++ [name] <+: other) :
    ((insert inner (place ++ [name]) node).find? other).map surface =
      (node.find? other).map surface := by
  induction place generalizing node other with
  | nil =>
      obtain rfl := Option.some.inj here
      cases other with
      | nil => rfl
      | cons first other =>
          have apart : first ≠ name := fun same => outside (by simp [same])
          rw [List.nil_append, insert, find?, FileNode.entries, lookup_putEntry, if_neg apart]
          rfl
  | cons step place ih =>
      cases node with
      | file text => simp [find?_file] at here
      | directory row =>
          rw [find?] at here
          cases other with
          | nil => rfl
          | cons first other =>
              rw [List.cons_append, insert, find?, FileNode.entries, lookup_putEntry, find?]
              cases found : (FileNode.directory row).entries.lookup step with
              | none => simp [found] at here
              | some next =>
                  rw [found] at here
                  by_cases same : first = step
                  · subst same
                    rw [if_pos rfl, found]
                    exact ih here fun inside => outside (by simpa using inside)
                  · rw [if_neg same]

end FileNode

namespace FileTree

/-- What stands at a place, whatever lies below it. -/
def at? (tree : FileTree) (place : List Text) : Option FileNode :=
  (tree.root.find? place).map FileNode.surface

variable {tree before after : FileTree}

/-- Where a directory stands, its own place is seen without its entries. -/
theorem at?_eq_empty_iff {place : List Text} : tree.at? place = some .empty ↔
    ∃ entries, tree.root.find? place = some (.directory entries) := by
  rw [at?]
  cases tree.root.find? place with
  | none => simp
  | some node => cases node <;> simp [FileNode.surface, FileNode.empty]

theorem at?_eq_file_iff {place : List Text} {text : Option Text} :
    tree.at? place = some (.file text) ↔ tree.root.find? place = some (.file text) := by
  rw [at?]
  cases tree.root.find? place with
  | none => simp
  | some node => cases node <;> simp [FileNode.surface, FileNode.empty]

/-- A file or an empty directory that is put into a directory, in the place of no directory, changes
what stands at its place alone. -/
theorem at?_insert {place : List Text} {name : Text} {entries : List (Text × FileNode)}
    {inner : FileNode} (here : tree.root.find? place = some (.directory entries))
    (bare : inner.entries = []) (free : tree.at? (place ++ [name]) ≠ some .empty)
    (other : List Text) :
    FileTree.at? { tree with root := FileNode.insert inner (place ++ [name]) tree.root } other =
      if other = place ++ [name] then some inner else tree.at? other := by
  rw [at?, at?]
  by_cases inside : place ++ [name] <+: other
  · obtain ⟨rest, rfl⟩ := inside
    rw [FileNode.find?_insert_append]
    cases rest with
    | nil =>
        rw [List.append_nil, if_pos rfl, FileNode.find?, Option.map_some,
          FileNode.surface_of_entries_eq_nil bare]
    | cons first rest =>
        have under : tree.root.find? (place ++ [name] ++ first :: rest) = none := by
          rw [FileNode.find?_append]
          cases standing : tree.root.find? (place ++ [name]) with
          | none => rfl
          | some node =>
              cases node with
              | file text => rfl
              | directory row => exact absurd (at?_eq_empty_iff.2 ⟨row, standing⟩) free
        rw [if_neg (by simp), FileNode.find?_of_entries_eq_nil bare, under]
  · rw [FileNode.surface_find?_insert inner here inside, if_neg]
    rintro rfl
    exact inside List.prefix_rfl

/-! ### What still stands -/

/-- Everything that stands in one tree stands in another, files perhaps with another text. -/
structure Keeps (before after : FileTree) : Prop where
  current : after.current = before.current
  standing : ∀ place node, before.at? place = some node →
    (after.at? place).map FileNode.kind = some node.kind

/-- Where a directory stood, there is one still. -/
theorem Keeps.directory (keeps : before.Keeps after) {place : List Text}
    {entries : List (Text × FileNode)}
    (stood : before.root.find? place = some (.directory entries)) :
    ∃ entries, after.root.find? place = some (.directory entries) := by
  have kind := keeps.standing place .empty (at?_eq_empty_iff.2 ⟨entries, stood⟩)
  rw [at?, Option.map_map, Option.map_eq_some_iff] at kind
  obtain ⟨node, here, same⟩ := kind
  cases node with
  | file text => exact absurd same (by simp [FileNode.surface, FileNode.kind, FileNode.empty])
  | directory row => exact ⟨row, here⟩

/-- Where something stood, something stands still. -/
theorem Keeps.isSome (keeps : before.Keeps after) {place : List Text}
    (stood : (before.root.find? place).isSome = true) :
    (after.root.find? place).isSome = true := by
  obtain ⟨node, here⟩ := Option.isSome_iff_exists.1 stood
  have kind := keeps.standing place node.surface (by rw [at?, here]; rfl)
  rw [at?, Option.map_map, Option.map_eq_some_iff] at kind
  obtain ⟨other, there, _⟩ := kind
  rw [there]
  rfl

/-- Names that could be followed can be followed still. -/
theorem Keeps.follow (keeps : before.Keeps after) {place names other : List Text}
    (led : before.follow place names = .ok other) : after.follow place names = .ok other := by
  induction names generalizing place with
  | nil => exact led
  | cons name names ih =>
      rw [FileTree.follow] at led ⊢
      split at led
      · exact absurd led (by simp)
      · exact absurd led (by simp)
      · rename_i entries here
        obtain ⟨row, there⟩ := keeps.directory here
        rw [there]
        dsimp only
        split at led
        · rename_i same
          rw [if_pos same]
          exact ih led
        · rename_i apart
          rw [if_neg apart]
          split at led
          · exact absurd led (by simp)
          · rename_i short
            rw [if_neg short]
            split at led
            · rename_i listed
              have stood : (before.root.find? (place ++ [name])).isSome = true := by
                rw [FileNode.find?_concat here name []]
                simpa [FileNode.find?] using listed
              have stands := keeps.isSome stood
              rw [FileNode.find?_concat there name []] at stands
              rw [if_pos (by simpa [FileNode.find?] using stands)]
              exact ih led
            · exact absurd led (by simp)

/-- Paths are followed from the same place as before. -/
theorem Keeps.start (keeps : before.Keeps after) (path : Path) :
    after.start path = before.start path := by
  rw [FileTree.start, FileTree.start, keeps.current]

/-- A path leads to a directory at a place. -/
def LeadsTo (tree : FileTree) (path : Path) (place : List Text) : Prop :=
  ∃ entries, tree.locate path = .ok (place, .directory entries)

/-- A path leads to a place without a fault, name by name, and a directory is there. -/
theorem leadsTo_iff {path : Path} {place : List Text} : tree.LeadsTo path place ↔
    fault? path = none ∧ tree.follow (tree.start path) (Path.names path) = .ok place ∧
      ∃ entries, tree.root.find? place = some (.directory entries) := by
  rw [LeadsTo, locate]
  cases fault? path with
  | some e => simp
  | none =>
      cases tree.follow (tree.start path) (Path.names path) with
      | error e => simp [bind, Except.bind]
      | ok other =>
          simp only [bind, Except.bind, true_and, Except.ok.injEq]
          constructor
          · rintro ⟨entries, located⟩
            split at located
            · exact absurd located (by simp)
            · split at located <;> simp at located
            · rename_i here
              obtain ⟨rfl, rfl⟩ := Prod.mk.inj (Except.ok.inj located)
              exact ⟨rfl, entries, here⟩
          · rintro ⟨rfl, entries, here⟩
            exact ⟨entries, by rw [here]⟩

/-- A path that led to a directory leads to it still. -/
theorem Keeps.leadsTo (keeps : before.Keeps after) {path : Path} {place : List Text}
    (led : before.LeadsTo path place) : after.LeadsTo path place := by
  obtain ⟨sound, followed, entries, here⟩ := leadsTo_iff.1 led
  exact leadsTo_iff.2 ⟨sound, keeps.start path ▸ keeps.follow followed, keeps.directory here⟩

/-! ### One operation -/

/-- Where a path's last name is looked up. -/
theorem of_locateParent {path : Path} {place : List Text} {entries : List (Text × FileNode)}
    {name : Text} (found : tree.locateParent path = .ok (place, entries, some name)) :
    fault? path = none ∧ Path.lastName? path = some name ∧
      tree.follow (tree.start path) (Path.names path).dropLast = .ok place ∧
      tree.root.find? place = some (.directory entries) := by
  rw [locateParent] at found
  cases sound : fault? path with
  | some e => simp [sound] at found
  | none =>
      rw [sound] at found
      dsimp only at found
      cases led : tree.follow (tree.start path)
          (if (Path.lastName? path).isSome = true then (Path.names path).dropLast
            else Path.names path) with
      | error e => simp [led, bind, Except.bind] at found
      | ok other =>
          simp only [led, bind, Except.bind] at found
          split at found
          · exact absurd found (by simp)
          · exact absurd found (by simp)
          · rename_i row here
            obtain ⟨rfl, rfl, last⟩ :
                other = place ∧ row = entries ∧ Path.lastName? path = name := by
              simpa using found
            rw [last, Option.isSome_some, if_pos rfl] at led
            exact ⟨rfl, last, led, here⟩

/-- An entry is seen at the place of its directory with its name behind. -/
theorem at?_entry {place : List Text} {entries : List (Text × FileNode)}
    (here : tree.root.find? place = some (.directory entries)) (name : Text) :
    tree.at? (place ++ [name]) = (entries.lookup name).map FileNode.surface := by
  rw [at?, FileNode.find?_concat here name []]
  cases entries.lookup name <;> rfl

/-- A name of an entry leads to it. -/
theorem follow_entry {place : List Text} {entries : List (Text × FileNode)} {name : Text}
    (here : tree.root.find? place = some (.directory entries)) (apart : name ≠ Path.up)
    (short : ¬ nameLimit < Text.byteLength name) {node : FileNode}
    (stands : tree.at? (place ++ [name]) = some node) :
    tree.follow place [name] = .ok (place ++ [name]) := by
  rw [at?_entry here] at stands
  have listed : (entries.lookup name).isSome = true := by
    rw [← Option.isSome_map (f := FileNode.surface), stands]
    rfl
  rw [follow, here]
  dsimp only
  rw [if_neg apart, if_neg short, if_pos listed]
  rfl

/-- A change at one place that keeps the kind of what stands there keeps everything. -/
theorem Keeps.of_places {place : List Text} {inner : FileNode}
    (current : after.current = before.current)
    (places : ∀ other, after.at? other = if other = place then some inner else before.at? other)
    (same : ∀ node, before.at? place = some node → node.kind = inner.kind) :
    before.Keeps after := by
  refine ⟨current, fun other node stood => ?_⟩
  rw [places]
  by_cases own : other = place
  · subst own
    rw [if_pos rfl, Option.map_some, same node stood]
  · rw [if_neg own, stood, Option.map_some]

/-- All that changes is that a node stands where a path leads to, in the place of no directory. -/
structure Puts (path : Path) (place : List Text) (inner : FileNode) (before after : FileTree) :
    Prop where
  keeps : before.Keeps after
  sound : fault? path = none
  led : after.follow (after.start path) (Path.names path) = .ok place
  free : before.at? place ≠ some .empty
  places : ∀ other, after.at? other = if other = place then some inner else before.at? other

/-- A file or an empty directory that is put where the last name of a path is looked up, in the
place of nothing or a file in that of a file, is all that changes. -/
theorem puts_insert {path : Path} {place : List Text} {entries : List (Text × FileNode)}
    {name : Text} {inner : FileNode}
    (found : tree.locateParent path = .ok (place, entries, some name))
    (short : ¬ nameLimit < Text.byteLength name) (bare : inner.entries = [])
    (same : ∀ node, entries.lookup name = some node → node.kind = .file ∧ inner.kind = .file) :
    tree.Puts path (place ++ [name]) inner
      { tree with root := FileNode.insert inner (place ++ [name]) tree.root } := by
  obtain ⟨sound, last, led, here⟩ := of_locateParent found
  obtain ⟨split, apart⟩ := Path.names_of_lastName? last
  have kinds (node : FileNode) (stood : tree.at? (place ++ [name]) = some node) :
      node.kind = .file ∧ inner.kind = .file := by
    rw [at?_entry here] at stood
    obtain ⟨previous, standing, rfl⟩ := Option.map_eq_some_iff.1 stood
    exact ⟨(FileNode.kind_surface previous).trans (same previous standing).1,
      (same previous standing).2⟩
  have free : tree.at? (place ++ [name]) ≠ some .empty := fun stood =>
    absurd (kinds .empty stood).1 (by simp [FileNode.kind, FileNode.empty])
  have places := at?_insert here bare free
  have keeps : tree.Keeps
      { tree with root := FileNode.insert inner (place ++ [name]) tree.root } :=
    .of_places rfl places fun node stood => (kinds node stood).1.trans (kinds node stood).2.symm
  refine ⟨keeps, sound, ?_, free, places⟩
  obtain ⟨row, there⟩ := keeps.directory here
  rw [split, follow_append, keeps.start, keeps.follow led]
  exact follow_entry there apart short ((places _).trans (if_pos rfl))

/-- A directory that is made stands where nothing stood, and nothing else changes. -/
theorem makeDirectory_spec {path : Path} (made : tree.makeDirectory path = .ok after) :
    tree.Keeps after ∧ ∃ place, tree.at? place = none ∧ after.LeadsTo path place ∧
      ∀ other, after.at? other = if other = place then some .empty else tree.at? other := by
  rw [makeDirectory] at made
  cases found : tree.locateParent path with
  | error e => simp [found, bind, Except.bind] at made
  | ok row =>
      obtain ⟨place, entries, last⟩ := row
      cases last with
      | none => simp [found, bind, Except.bind] at made
      | some name =>
          simp only [found, bind, Except.bind] at made
          split at made
          · exact absurd made (by simp)
          · rename_i short
            split at made
            · exact absurd made (by simp)
            · rename_i missing
              have missing : entries.lookup name = none := Option.not_isSome_iff_eq_none.1 missing
              have bare : FileNode.empty.entries = [] := rfl
              have puts := puts_insert found short bare fun node standing =>
                absurd (missing.symm.trans standing) (by simp)
              rw [Except.ok.inj made] at puts
              have stands : after.at? (place ++ [name]) = some .empty :=
                (puts.places _).trans (if_pos rfl)
              refine ⟨puts.keeps, place ++ [name], ?_, ?_, puts.places⟩
              · rw [at?_entry (of_locateParent found).2.2.2, missing]
                rfl
              · exact leadsTo_iff.2 ⟨puts.sound, puts.led, at?_eq_empty_iff.1 stands⟩

/-- A file that is written stands where a file stood or nothing, and nothing else changes. -/
theorem write_spec {path : Path} {content : Option Text}
    (wrote : tree.write path content = .ok after) :
    tree.Keeps after ∧ ∃ place, tree.at? place ≠ some .empty ∧
      after.locate path = .ok (place, .file content) ∧
      ∀ other, after.at? other =
        if other = place then some (.file content) else tree.at? other := by
  rw [write] at wrote
  cases found : tree.locateParent path with
  | error e => simp [found, bind, Except.bind] at wrote
  | ok row =>
      obtain ⟨place, entries, last⟩ := row
      cases last with
      | none => simp [found, bind, Except.bind] at wrote
      | some name =>
          simp only [found, bind, Except.bind] at wrote
          split at wrote
          · exact absurd wrote (by simp)
          · rename_i solid
            split at wrote
            · exact absurd wrote (by simp)
            · rename_i short
              split at wrote
              · exact absurd wrote (by simp)
              · rename_i file
                have file (node : FileNode) (standing : entries.lookup name = some node) :
                    node.kind = .file ∧ (FileNode.file content).kind = .file := by
                  cases node with
                  | file text => exact ⟨rfl, rfl⟩
                  | directory row => exact absurd standing (file row)
                have bare : (FileNode.file content).entries = [] := rfl
                have puts := puts_insert found short bare file
                rw [Except.ok.inj wrote] at puts
                have stands : after.at? (place ++ [name]) = some (.file content) :=
                  (puts.places _).trans (if_pos rfl)
                refine ⟨puts.keeps, place ++ [name], puts.free, ?_, puts.places⟩
                rw [locate, puts.sound]
                simp only [bind, Except.bind, puts.led, at?_eq_file_iff.1 stands]
                rw [if_neg solid]

/-! ### Directories only -/

/-- A directory was made at a place where nothing stood, and one of some paths leads to it. -/
structure MadeAt (paths : Path → Prop) (before after : FileTree) (place : List Text) : Prop where
  missing : before.at? place = none
  made : after.at? place = some .empty
  led : ∃ path, paths path ∧ after.LeadsTo path place

/-- All that changes is that directories were made, each where one of some paths leads to. -/
structure OnlyMade (paths : Path → Prop) (before after : FileTree) : Prop where
  current : after.current = before.current
  places : ∀ place, after.at? place = before.at? place ∨ MadeAt paths before after place

variable {paths : Path → Prop}

theorem OnlyMade.refl (tree : FileTree) : OnlyMade paths tree tree :=
  ⟨rfl, fun _ => .inl rfl⟩

/-- Making directories takes nothing away. -/
theorem OnlyMade.keeps (only : OnlyMade paths before after) : before.Keeps after := by
  refine ⟨only.current, fun place node stood => ?_⟩
  rcases only.places place with same | made
  · rw [same, stood, Option.map_some]
  · exact absurd (made.missing.symm.trans stood) (by simp)

/-- A directory made for one of some paths was made for one of more. -/
theorem MadeAt.mono {others : Path → Prop} {place : List Text}
    (made : MadeAt paths before after place) (more : ∀ path, paths path → others path) :
    MadeAt others before after place := by
  obtain ⟨path, one, led⟩ := made.led
  exact ⟨made.missing, made.made, path, more path one, led⟩

/-- The same goes for all directories that were made. -/
theorem OnlyMade.mono {others : Path → Prop} (only : OnlyMade paths before after)
    (more : ∀ path, paths path → others path) : OnlyMade others before after :=
  ⟨only.current, fun place => (only.places place).imp_right fun made => made.mono more⟩

/-- What was made stays made. -/
theorem MadeAt.keeps {middle : FileTree} {place : List Text}
    (made : MadeAt paths before middle place) (keeps : middle.Keeps after)
    (same : after.at? place = middle.at? place) : MadeAt paths before after place := by
  obtain ⟨path, one, led⟩ := made.led
  exact ⟨made.missing, same.trans made.made, path, one, keeps.leadsTo led⟩

/-- First some directories are made, then others. -/
theorem OnlyMade.trans {middle : FileTree} (first : OnlyMade paths before middle)
    (second : OnlyMade paths middle after) : OnlyMade paths before after := by
  refine ⟨second.current.trans first.current, fun place => ?_⟩
  rcases first.places place with same | made
  · rcases second.places place with unchanged | later
    · exact .inl (unchanged.trans same)
    · exact .inr ⟨same.symm.trans later.missing, later.made, later.led⟩
  · rcases second.places place with unchanged | later
    · exact .inr (made.keeps second.keeps unchanged)
    · exact absurd (made.made.symm.trans later.missing) (by simp)

/-- Making a directory makes that one and nothing else. -/
theorem OnlyMade.of_makeDirectory {path : Path} (made : before.makeDirectory path = .ok after)
    (one : paths path) : OnlyMade paths before after := by
  obtain ⟨keeps, place, missing, led, places⟩ := makeDirectory_spec made
  refine ⟨keeps.current, fun other => ?_⟩
  rw [places]
  by_cases own : other = place
  · subst own
    refine .inr ⟨missing, by rw [places, if_pos rfl], path, one, led⟩
  · exact .inl (if_neg own)

end FileTree

/-- An operation changes the tree if it succeeds. -/
theorem run_change (operation : FileTree → Except FileError FileTree) (tree : FileTree) :
    (FileTree.change operation).run tree =
      match operation tree with
      | .error e => (.error e, tree)
      | .ok after => (.ok (), after) := by
  have got : (get : StateM FileTree FileTree).run tree = (tree, tree) := rfl
  rw [FileTree.change, run_bind_of_run got]
  cases operation tree <;> rfl

/-- A directory that cannot be made leaves the files as they were. -/
theorem run_makeDirectory (tree : FileTree) (path : Path) :
    (makeDirectory path : StateM FileTree _).run tree =
      match tree.makeDirectory path with
      | .error e => (.error e, tree)
      | .ok after => (.ok (), after) :=
  run_change (·.makeDirectory path) tree

/-- So does a text that cannot be written. -/
theorem run_writeText (tree : FileTree) (path : Path) (t : Text) :
    (writeText path t : StateM FileTree _).run tree =
      match tree.write path (some t) with
      | .error e => (.error e, tree)
      | .ok after => (.ok (), after) :=
  run_change (·.write path (some t)) tree

/-- A path that another lies in, as it is written: its parent, or a path that its parent lies in. -/
def Path.LiesIn : Path → Path → Prop :=
  Relation.TransGen fun path parent => Path.parent? path = some parent

/-- A path or one that it lies in. -/
def Path.Reaches (path other : Path) : Prop :=
  other = path ∨ path.LiesIn other

/-- A path lies in the directories that the path above it goes through. -/
theorem Path.Reaches.liesIn {path parent other : Path} (above : Path.parent? path = some parent)
    (reaches : parent.Reaches other) : path.LiesIn other := by
  rcases reaches with rfl | further
  · exact .single above
  · exact .head above further

/-! ### Making directories -/

namespace FileTree

/-- A path leads to a directory. -/
def HasDirectory (tree : FileTree) (path : Path) : Prop :=
  (tree.node? path).map FileNode.kind = some .directory

/-- Where a path leads, there is a directory. -/
theorem LeadsTo.hasDirectory {tree : FileTree} {path : Path} {place : List Text}
    (led : tree.LeadsTo path place) : tree.HasDirectory path := by
  obtain ⟨entries, located⟩ := led
  rw [HasDirectory, node?, located]
  rfl

/-- A directory is not there and cannot be made. -/
def Withholds (tree : FileTree) (directory : Path) (e : FileError) : Prop :=
  tree.makeDirectory directory = .error e ∧ ¬ tree.HasDirectory directory

/-- Names are followed from directories only. -/
theorem directory_of_follow {tree : FileTree} {place other : List Text} {name : Text}
    {names : List Text} (led : tree.follow place (name :: names) = .ok other) :
    ∃ entries, tree.root.find? place = some (.directory entries) := by
  rw [follow] at led
  split at led
  · exact absurd led (by simp)
  · exact absurd led (by simp)
  · rename_i entries here
    exact ⟨entries, here⟩

/-- Where a directory is, there is also one that its last name is looked up in. -/
theorem HasDirectory.exists_locateParent {tree : FileTree} {path : Path}
    (stands : tree.HasDirectory path) : ∃ found, tree.locateParent path = .ok found := by
  obtain ⟨node, found, kind⟩ := Option.map_eq_some_iff.1 stands
  obtain ⟨sound, place, led, here⟩ := of_node? found
  rw [locateParent, sound]
  cases last : Path.lastName? path with
  | none =>
      cases node with
      | file text => exact absurd kind (by simp [FileNode.kind])
      | directory entries =>
          simp only [bind, Except.bind, Option.isSome_none, Bool.false_eq_true, if_false, led, here]
          exact ⟨_, rfl⟩
  | some name =>
      rw [(Path.names_of_lastName? last).1, follow_append] at led
      cases first : tree.follow (tree.start path) (Path.names path).dropLast with
      | error e => simp [first, Except.bind] at led
      | ok middle =>
          rw [first] at led
          obtain ⟨entries, there⟩ := directory_of_follow led
          simp only [bind, Except.bind, Option.isSome_some, if_true, first, there]
          exact ⟨_, rfl⟩

/-- Where no directory is found to make another in, the other is not there. -/
theorem withholds_of_notFound {tree : FileTree} {path : Path}
    (failed : tree.makeDirectory path = .error .notFound) : tree.Withholds path .notFound := by
  refine ⟨failed, fun stands => ?_⟩
  obtain ⟨⟨place, entries, last⟩, found⟩ := stands.exists_locateParent
  rw [makeDirectory, found] at failed
  cases last with
  | none => exact absurd failed (by simp [bind, Except.bind])
  | some name =>
      simp only [bind, Except.bind] at failed
      split at failed
      · exact absurd failed (by simp)
      · split at failed <;> exact absurd failed (by simp)

/-- How making a directory with others ends: only directories that some paths lead to were made; if
it succeeds, the directory is there, and if it fails, one of the others could not be made. -/
structure Makes (paths : Path → Prop) (path : Path) (answer : Except FileError Unit)
    (before after : FileTree) : Prop where
  only : before.OnlyMade paths after
  made : answer = .ok () → path = [] ∨ after.HasDirectory path
  refused : ∀ e, answer = .error e → ∃ directory, paths directory ∧ after.Withholds directory e

variable {paths : Path → Prop} {path : Path} {answer : Except FileError Unit}
  {before middle after : FileTree}

/-- What is made on the way to fewer paths is made on the way to more. -/
theorem Makes.mono {others : Path → Prop} (makes : before.Makes paths path answer after)
    (more : ∀ path, paths path → others path) : before.Makes others path answer after :=
  ⟨makes.only.mono more, makes.made, fun e failed =>
    (makes.refused e failed).imp fun directory ⟨one, withheld⟩ => ⟨more directory one, withheld⟩⟩

/-- For the empty path nothing is to be made. -/
theorem Makes.idle (empty : path = []) : before.Makes paths path (.ok ()) before :=
  ⟨.refl before, fun _ => .inl empty, nofun⟩

/-- What was made first belongs to what is made in all. -/
theorem Makes.behind (first : before.OnlyMade paths middle)
    (second : middle.Makes paths path answer after) : before.Makes paths path answer after :=
  ⟨first.trans second.only, second.made, second.refused⟩

/-- With its last directory made, a path is done. -/
theorem Makes.of_makeDirectory (made : before.makeDirectory path = .ok after) (one : paths path) :
    before.Makes paths path (.ok ()) after := by
  obtain ⟨_, place, _, led, _⟩ := makeDirectory_spec made
  exact ⟨.of_makeDirectory made one, fun _ => .inr led.hasDirectory, nofun⟩

/-- With a directory that cannot be made, nothing more is made. -/
theorem Makes.of_withholds {directory : Path} {e : FileError} (one : paths directory)
    (withheld : before.Withholds directory e) : before.Makes paths path (.error e) before :=
  ⟨.refl before, nofun, fun _ failed => ⟨directory, one, Except.error.inj failed ▸ withheld⟩⟩

end FileTree

section Runs

variable (tree : FileTree) (path : Path)

/-- Where a directory was not made, it is there already or the error stands. -/
theorem unlessDirectory_run {e : FileError} (failed : tree.makeDirectory path = .error e) :
    ∃ answer, (do if ← isDirectory path then return .ok () else return .error e :
        StateM FileTree (Except FileError Unit)).run tree = (answer, tree) ∧
      tree.Makes path.Reaches path answer tree := by
  rw [run_bind_of_run (run_isDirectory tree path)]
  split
  · rename_i stands
    exact ⟨_, rfl, .refl tree, fun _ => .inr (eq_of_beq stands), nofun⟩
  · rename_i missing
    exact ⟨_, rfl, .of_withholds (.inl rfl) ⟨failed, fun stands => missing (beq_iff_eq.2 stands)⟩⟩

/-- A directory is there already, is made, or cannot be made. -/
theorem ensureDirectory_run : ∃ answer after,
    (ensureDirectory path : StateM FileTree _).run tree = (answer, after) ∧
      tree.Makes path.Reaches path answer after := by
  have ran := run_makeDirectory tree path
  cases made : tree.makeDirectory path with
  | ok after =>
      rw [made] at ran
      exact ⟨_, _, run_bind_of_run ran _, .of_makeDirectory made (.inl rfl)⟩
  | error e =>
      rw [made] at ran
      obtain ⟨answer, checked, makes⟩ := unlessDirectory_run tree path made
      exact ⟨answer, tree, (run_bind_of_run ran _).trans checked, makes⟩

/-- With as many steps as the path has characters, a directory is made with those that it lies
in. -/
theorem makeDirectoriesWithin_run {steps : Nat} (enough : path.length ≤ steps) :
    ∃ answer after, (makeDirectoriesWithin steps path : StateM FileTree _).run tree =
      (answer, after) ∧ tree.Makes path.Reaches path answer after := by
  induction steps generalizing path with
  | zero => exact ⟨_, _, rfl, .idle (List.length_eq_zero_iff.1 (Nat.le_zero.1 enough))⟩
  | succ steps ih =>
      rw [makeDirectoriesWithin]
      by_cases empty : path.isEmpty = true
      · rw [if_pos empty]
        exact ⟨_, _, rfl, .idle (List.isEmpty_iff.1 empty)⟩
      rw [if_neg empty]
      have ran := run_makeDirectory tree path
      cases made : tree.makeDirectory path with
      | ok after =>
          rw [made] at ran
          exact ⟨_, _, run_bind_of_run ran _, .of_makeDirectory made (.inl rfl)⟩
      | error e =>
          rw [made] at ran
          rw [run_bind_of_run ran]
          -- Only where the enclosing directory is missing is there something to make above.
          by_cases absent : e = .notFound
          case neg =>
            obtain ⟨answer, checked, makes⟩ := unlessDirectory_run tree path made
            refine ⟨answer, tree, ?_, makes⟩
            cases e <;> first | exact checked | exact absurd rfl absent
          subst absent
          dsimp only
          cases above : Path.parent? path with
          | none =>
              exact ⟨_, _, rfl, .of_withholds (.inl rfl) (FileTree.withholds_of_notFound made)⟩
          | some parent =>
              have shorter := Path.length_of_parent? above
              obtain ⟨answer, middle, climbed, first⟩ := ih parent (by omega)
              have first : tree.Makes path.Reaches parent answer middle :=
                first.mono fun other reaches => .inr (reaches.liesIn above)
              dsimp only
              rw [run_bind_of_run climbed]
              cases answer with
              | error e => exact ⟨_, _, rfl, first.only, nofun, first.refused⟩
              | ok _ =>
                  obtain ⟨answer, after, ended, second⟩ := ensureDirectory_run middle path
                  exact ⟨answer, after, ended, .behind first.only second⟩

/-- The directories that a path lies in are made, or one of them cannot be. -/
theorem makeParents_run : ∃ answer after,
    (makeDirectories ((Path.parent? path).getD []) : StateM FileTree _).run tree =
      (answer, after) ∧ tree.Makes path.LiesIn ((Path.parent? path).getD []) answer after := by
  cases above : Path.parent? path with
  | none => exact ⟨_, _, rfl, .idle rfl⟩
  | some parent =>
      obtain ⟨answer, after, ran, makes⟩ := makeDirectoriesWithin_run tree parent (Nat.le_refl _)
      exact ⟨answer, after, ran, makes.mono fun other reaches => reaches.liesIn above⟩

end Runs

/-! ### A file and its directories -/

namespace FileTree

/-- All that changes is that a path leads to a file with a text, where a file stood or nothing, and
that directories were made that the path lies in. -/
structure OnlyWrote (path : Path) (t : Text) (before after : FileTree) : Prop where
  current : after.current = before.current
  places : ∃ place, before.at? place ≠ some .empty ∧
    after.locate path = .ok (place, .file (some t)) ∧
    ∀ other, other ≠ place →
      after.at? other = before.at? other ∨ MadeAt path.LiesIn before after other

/-- Directories are made first, and then one file is written. -/
theorem OnlyMade.write {before middle after : FileTree} {path : Path} {t : Text}
    (only : before.OnlyMade path.LiesIn middle) (wrote : middle.write path (some t) = .ok after) :
    before.OnlyWrote path t after := by
  obtain ⟨keeps, place, free, led, places⟩ := write_spec wrote
  refine ⟨keeps.current.trans only.current, place, fun stood => ?_, led, fun other apart => ?_⟩
  · obtain ⟨entries, here⟩ := only.keeps.directory (at?_eq_empty_iff.1 stood).choose_spec
    exact free (at?_eq_empty_iff.2 ⟨entries, here⟩)
  · have same : after.at? other = middle.at? other := by rw [places, if_neg apart]
    rcases only.places other with unchanged | made
    · exact .inl (same.trans unchanged)
    · exact .inr (made.keeps keeps same)

/-- A file cannot be written: a directory that its path lies in is not there and cannot be made, or
the one that it lies in directly is there, if the path names one, and the file is refused. -/
def Refuses (tree : FileTree) (path : Path) (t : Text) (e : FileError) : Prop :=
  (∃ directory, path.LiesIn directory ∧ tree.Withholds directory e) ∨
    ((Path.parent? path).getD [] = [] ∨ tree.HasDirectory ((Path.parent? path).getD [])) ∧
      tree.write path (some t) = .error e

end FileTree

/-- Writing a file through its directories changes the file and directories that it lies in, or
makes such directories only and cannot go on. -/
theorem writeThrough_run (tree : FileTree) (path : Path) (t : Text) : ∃ answer after,
    (writeThrough path t : StateM FileTree _).run tree = (answer, after) ∧
      match answer with
      | .ok _ => tree.OnlyWrote path t after
      | .error e => tree.OnlyMade path.LiesIn after ∧ after.Refuses path t e := by
  obtain ⟨answer, middle, ran, makes⟩ := makeParents_run tree path
  rw [writeThrough, run_bind_of_run ran]
  cases answer with
  | error e => exact ⟨_, _, rfl, makes.only, .inl (makes.refused e rfl)⟩
  | ok _ =>
      dsimp only
      rw [run_writeText]
      cases wrote : middle.write path (some t) with
      | error e => exact ⟨_, _, rfl, makes.only, .inr ⟨makes.made rfl, wrote⟩⟩
      | ok after => exact ⟨_, _, rfl, makes.only.write wrote⟩

/-- A path that leads up again lies, as it is written, in a directory that is made for it alone. -/
example :
    let written := (writeThrough "a/../b".toList "x".toList : StateM FileTree _).run ⟨.empty, []⟩
    (written.2.at? ["a".toList], written.2.at? ["b".toList]) =
      (some .empty, some (.file (some "x".toList))) := by
  rfl

end MailTemplate
