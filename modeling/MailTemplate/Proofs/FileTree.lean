/-
Module: MailTemplate.Proofs.FileTree
Purpose: What reading a path below a directory finds, and what a survey of the directory lists.
Main exports: Path.names_join, FileTree.isFileName, FileNode.IsProper, FileNode.find?_append,
  FileTree.follow_append, FileTree.readText_below, run_bind_of_run, FileNode.mem_survey_iff
-/
import MailTemplate.Files.Tree
import MailTemplate.Proofs.Lines

/-!
A path that is seen from a directory leads through that directory: following it is following the
directory's path and then the names behind it.  Below a directory of a proper tree, one in which
each entry has a name of its own that a path can write, names lead to what stands in the tree under
them.  And a survey that leaves no gap lists the files that names lead to, each by these names.
-/

namespace MailTemplate

/-! ### Paths -/

namespace Path

/-- Whether a piece of a path is a name. -/
def isNamePiece (piece : Text) : Bool :=
  !isIdle piece && piece != up

/-- A piece is a name if it goes on to somewhere and not up. -/
theorem isNamePiece_iff {piece : Text} :
    isNamePiece piece = true ↔ isIdle piece = false ∧ piece ≠ up := by
  simp [isNamePiece]

/-- Every path has a piece, be it an empty one. -/
theorem pieces_ne_nil (path : Path) : pieces path ≠ [] := by
  rw [pieces, Text.splitOn_eq]
  exact List.splitOn_ne_nil '/' path

/-- The pieces between slashes are those that were put there. -/
theorem pieces_join {row : List Text} (nonempty : row ≠ []) (plain : ∀ piece ∈ row, '/' ∉ piece) :
    pieces (Text.join ['/'] row) = row := by
  rw [pieces, Text.splitOn_eq]
  exact List.splitOn_intercalate '/' plain nonempty

/-- A path is its pieces with slashes between them. -/
theorem join_pieces (path : Path) : Text.join ['/'] (pieces path) = path := by
  rw [pieces, Text.splitOn_eq]
  exact List.intercalate_splitOn '/'

/-- Pieces hold no slashes. -/
theorem not_mem_of_mem_pieces {path : Path} {piece : Text} (inside : piece ∈ pieces path) :
    '/' ∉ piece :=
  Text.not_mem_of_mem_splitOn inside

/-- Names are the pieces that are not idle. -/
theorem mem_names_iff {path : Path} {piece : Text} :
    piece ∈ names path ↔ piece ∈ pieces path ∧ isIdle piece = false := by
  simp [names]

/-- A piece that leads up is never idle. -/
theorem up_mem_names_iff {path : Path} : up ∈ names path ↔ up ∈ pieces path := by
  rw [mem_names_iff, and_iff_left (by decide)]

/-- A path seen from a base stands behind a slash, with which the base may end. -/
theorem exists_join {base path : Path} (nonempty : base ≠ []) (relative : isAbsolute path = false) :
    ∃ front, (base = front ∨ base = front ++ ['/']) ∧ join base path = front ++ '/' :: path := by
  rw [join, if_neg (by simpa using relative)]
  split
  · rename_i ends
    obtain ⟨front, rfl⟩ : ∃ front, base = front ++ ['/'] := by
      simpa [nonempty, List.getLast?_eq_some_iff] using ends
    exact ⟨front, .inr rfl, by simp⟩
  · exact ⟨base, .inl rfl, rfl⟩

/-- At a slash a path is cut into pieces on both sides apart. -/
theorem pieces_slash (front path : Path) :
    pieces (front ++ '/' :: path) = pieces front ++ pieces path :=
  Text.splitOn_append '/' front path

/-- The names of a joined path are those of both, one behind the other. -/
theorem names_join {base path : Path} (nonempty : base ≠ []) (relative : isAbsolute path = false) :
    names (join base path) = names base ++ names path := by
  obtain ⟨front, begins, whole⟩ := exists_join nonempty relative
  have slash : names (front ++ ['/']) = names front := by
    rw [names, pieces_slash, List.filter_append]
    exact List.append_nil _
  have own : names base = names front := by
    rcases begins with rfl | rfl
    · rfl
    · exact slash
  rw [whole, own, names, pieces_slash, List.filter_append]
  rfl

/-- A joined path is absolute if its base is. -/
theorem isAbsolute_join {base path : Path} (nonempty : base ≠ [])
    (relative : isAbsolute path = false) :
    isAbsolute (join base path) = isAbsolute base := by
  obtain ⟨front, begins, whole⟩ := exists_join nonempty relative
  rw [whole]
  cases front with
  | nil =>
      rcases begins with rfl | rfl
      · exact absurd rfl nonempty
      · rfl
  | cons c front => rcases begins with rfl | rfl <;> rfl

/-- Joining adds no character but a slash. -/
theorem mem_join_iff {base path : Path} (nonempty : base ≠ []) (relative : isAbsolute path = false)
    {c : Char} (other : c ≠ '/') : c ∈ join base path ↔ c ∈ base ∨ c ∈ path := by
  obtain ⟨front, begins, whole⟩ := exists_join nonempty relative
  rw [whole]
  rcases begins with rfl | rfl <;> simp [other]

/-- Behind an empty base a relative path stays as it is. -/
theorem join_nil {path : Path} (relative : isAbsolute path = false) : join [] path = path := by
  rw [join, if_neg (by simp [relative])]
  rfl

/-- Whether a joined path insists on a directory is told by its end. -/
theorem meansDirectory_join (root : Path) {path : Path} (relative : isAbsolute path = false) :
    FileTree.meansDirectory (join root path) = FileTree.meansDirectory path := by
  by_cases empty : root = []
  · rw [empty, join_nil relative]
  · obtain ⟨front, _, whole⟩ := exists_join empty relative
    rw [FileTree.meansDirectory, whole, pieces_slash,
      List.getLast?_append_of_ne_nil _ (pieces_ne_nil path)]
    rfl

end Path

/-! ### Trees -/

/-- The value under a key of a list in which no key occurs twice. -/
theorem lookup_of_nodup {α β : Type} [BEq α] [LawfulBEq α] {entries : List (α × β)} {key : α}
    {value : β} (distinct : (entries.map Prod.fst).Nodup) (inside : (key, value) ∈ entries) :
    entries.lookup key = some value := by
  obtain ⟨front, back, rfl⟩ := List.append_of_mem inside
  refine List.lookup_eq_some_iff.2 ⟨front, back, rfl, fun entry early => ?_⟩
  rw [List.map_append, List.nodup_append] at distinct
  have other := distinct.2.2 entry.1 (List.mem_map_of_mem early) key (by simp)
  simpa using Ne.symm other

/-- What is looked up is among the entries. -/
theorem mem_of_lookup {α β : Type} [BEq α] [LawfulBEq α] {entries : List (α × β)} {key : α}
    {value : β} (found : entries.lookup key = some value) : (key, value) ∈ entries := by
  obtain ⟨front, back, rfl, _⟩ := List.lookup_eq_some_iff.1 found
  simp

namespace FileTree

/-- Whether a text can be the name of an entry: a path can write it, and it is short enough. -/
def isFileName (name : Text) : Bool :=
  Path.isNamePiece name && !name.contains '/' && !name.contains '\x00' &&
    decide (Text.byteLength name ≤ nameLimit)

/-- What the name of a file has to be like. -/
theorem isFileName_iff {name : Text} :
    isFileName name = true ↔ Path.isNamePiece name = true ∧ '/' ∉ name ∧ '\x00' ∉ name ∧
      Text.byteLength name ≤ nameLimit := by
  simp [isFileName, and_assoc]

end FileTree

namespace FileNode

/-- A node of a proper tree: below it, all entries of a directory have different names, and names
that entries can have. -/
inductive IsProper : FileNode → Prop
  | file (text : Option Text) : IsProper (.file text)
  | directory {entries : List (Text × FileNode)} (distinct : (entries.map Prod.fst).Nodup)
      (named : ∀ entry ∈ entries, FileTree.isFileName entry.1 = true)
      (each : ∀ entry ∈ entries, IsProper entry.2) : IsProper (.directory entries)

/-- A path leads on from where its beginning leads. -/
theorem find?_append (node : FileNode) (first second : List Text) :
    node.find? (first ++ second) = (node.find? first).bind fun inner => inner.find? second := by
  induction first generalizing node with
  | nil => rfl
  | cons name first ih =>
      rw [List.cons_append, find?, find?]
      cases node.entries.lookup name with
      | none => rfl
      | some inner => exact ih inner

/-- No names lead on from a file. -/
theorem find?_file (text : Option Text) (name : Text) (names : List Text) :
    (FileNode.file text).find? (name :: names) = none :=
  rfl

/-- An entry of a proper directory has a file name, and is proper itself. -/
theorem IsProper.of_lookup {entries : List (Text × FileNode)} {name : Text} {inner : FileNode}
    (proper : IsProper (.directory entries)) (found : entries.lookup name = some inner) :
    FileTree.isFileName name = true ∧ inner.IsProper := by
  cases proper with
  | directory _ named each => exact ⟨named _ (mem_of_lookup found), each _ (mem_of_lookup found)⟩

/-- Names that lead to a node are names of entries. -/
theorem IsProper.isFileName_of_find? {node inner : FileNode} {names : List Text}
    (proper : node.IsProper) (found : node.find? names = some inner) :
    ∀ name ∈ names, FileTree.isFileName name = true := by
  induction names generalizing node with
  | nil => simp
  | cons name names ih =>
      cases node with
      | file text => simp [find?_file] at found
      | directory entries =>
          rw [find?] at found
          split at found
          · exact absurd found (by simp)
          · rename_i next here
            obtain ⟨own, kept⟩ := proper.of_lookup here
            exact List.forall_mem_cons.2 ⟨own, ih kept found⟩

end FileNode

/-! ### Following and reading -/

namespace FileTree

variable {tree : FileTree}

/-- Following names goes on from where the first of them lead. -/
theorem follow_append (tree : FileTree) (place first second : List Text) :
    tree.follow place (first ++ second) =
      (tree.follow place first).bind fun middle => tree.follow middle second := by
  induction first generalizing place with
  | nil => rfl
  | cons name first ih =>
      rw [List.cons_append, follow, follow]
      cases tree.root.find? place with
      | none => rfl
      | some node =>
          cases node with
          | file text => rfl
          | directory entries =>
              dsimp only
              split
              · exact ih _
              · split
                · rfl
                · split
                  · exact ih _
                  · rfl

/-- Names that do not lead up are followed to what stands under them. -/
theorem follow_below {place names : List Text} {node : FileNode}
    (here : tree.root.find? place = some node) (proper : node.IsProper) (below : Path.up ∉ names) :
    (node.find? names).isSome = true ∧ tree.follow place names = .ok (place ++ names) ∨
      node.find? names = none ∧ ∃ e, tree.follow place names = .error e := by
  induction names generalizing place node with
  | nil => exact .inl ⟨rfl, by rw [follow, List.append_nil]⟩
  | cons name names ih =>
      rw [List.mem_cons, not_or] at below
      cases node with
      | file text => exact .inr ⟨rfl, _, by rw [follow, here]⟩
      | directory entries =>
          rw [follow, here, FileNode.find?, FileNode.entries]
          dsimp only
          rw [if_neg (Ne.symm below.1)]
          cases found : entries.lookup name with
          | none =>
              refine .inr ⟨rfl, ?_⟩
              split <;> exact ⟨_, rfl⟩
          | some inner =>
              obtain ⟨own, kept⟩ := proper.of_lookup found
              obtain ⟨_, _, _, short⟩ := isFileName_iff.1 own
              have inside : tree.root.find? (place ++ [name]) = some inner := by
                rw [FileNode.find?_append, here, Option.bind_some, FileNode.find?,
                  FileNode.entries, found]
                rfl
              have whole : place ++ name :: names = place ++ [name] ++ names := by simp
              rw [if_neg (Nat.not_lt.2 short), Option.isSome_some, if_pos rfl, whole]
              exact ih inside kept below.2

/-- Names that do not lead up are followed to what stands under them, or nowhere. -/
theorem of_follow {place names other : List Text} (below : Path.up ∉ names)
    (led : tree.follow place names = .ok other) : other = place ++ names := by
  induction names generalizing place with
  | nil =>
      rw [follow, Except.ok.injEq] at led
      simp [led]
  | cons name names ih =>
      rw [List.mem_cons, not_or] at below
      rw [follow] at led
      split at led
      · exact absurd led (by simp)
      · exact absurd led (by simp)
      · rw [if_neg (Ne.symm below.1)] at led
        split at led
        · exact absurd led (by simp)
        · split at led
          · simpa using ih below.2 led
          · exact absurd led (by simp)

/-- A path without fault is not empty, not too long, and holds no zero byte. -/
theorem of_fault?_eq_none {path : Path} (sound : fault? path = none) :
    '\x00' ∉ path ∧ path ≠ [] ∧ Path.isTooLong path = false := by
  unfold fault? at sound
  split at sound
  · exact absurd sound (by simp)
  · rename_i clear
    split at sound
    · exact absurd sound (by simp)
    · rename_i nonempty
      split at sound
      · exact absurd sound (by simp)
      · rename_i short
        exact ⟨by simpa using clear, by simpa using nonempty, by simpa using short⟩

/-- Behind a path without a fault, another path can only make it too long. -/
theorem fault?_join {root path : Path} (sound : fault? root = none)
    (relative : Path.isAbsolute path = false) (clear : '\x00' ∉ path) :
    fault? (Path.join root path) =
      if Path.isTooLong (Path.join root path) then some .nameTooLong else none := by
  obtain ⟨own, nonempty, _⟩ := of_fault?_eq_none sound
  have nul : (Path.join root path).contains '\x00' = false := by
    simp [Path.mem_join_iff nonempty relative, own, clear]
  have nonempty : (Path.join root path).isEmpty = false := by
    obtain ⟨front, _, whole⟩ := Path.exists_join nonempty relative
    simp [whole]
  rw [fault?, nul, nonempty]
  rfl

/-- How a path leads to a node. -/
theorem of_node? {root : Path} {node : FileNode} (found : tree.node? root = some node) :
    fault? root = none ∧ ∃ place, tree.follow (tree.start root) (Path.names root) = .ok place ∧
      tree.root.find? place = some node := by
  rw [node?, locate] at found
  cases sound : fault? root with
  | some e => simp [sound] at found
  | none =>
      refine ⟨rfl, ?_⟩
      rw [sound] at found
      cases led : tree.follow (tree.start root) (Path.names root) with
      | error e => simp [led, bind, Except.bind] at found
      | ok place =>
          refine ⟨place, rfl, ?_⟩
          simp only [led, bind, Except.bind] at found
          split at found
          · rename_i reached
            split at reached
            · exact absurd reached (by simp)
            · split at reached <;> simp_all
            · simp_all
          · exact absurd found (by simp)

/-- The survey of a path that leads to a directory is the one of the directory. -/
theorem survey_of_node? [DirectoryWalk] {path : Path} {entries : List (Text × FileNode)}
    (found : tree.node? path = some (.directory entries)) :
    tree.survey path = DirectoryWalk.survey path (.directory entries) := by
  rw [survey, found]

/-- Reading a path below a directory finds the text under the path's names. -/
theorem readText_below {root path : Path} {node : FileNode} (found : tree.node? root = some node)
    (proper : node.IsProper) (relative : Path.isAbsolute path = false)
    (clear : '\x00' ∉ path) (below : Path.up ∉ Path.names path)
    (solid : meansDirectory path = false) :
    (tree.readText (Path.join root path)).toOption =
      if Path.isTooLong (Path.join root path) then none
      else
        match node.find? (Path.names path) with
        | some (.file text) => text
        | _ => none := by
  obtain ⟨sound, place, led, here⟩ := of_node? found
  have nonempty := (of_fault?_eq_none sound).2.1
  have begin : tree.start (Path.join root path) = tree.start root := by
    rw [start, start, Path.isAbsolute_join nonempty relative]
  have ends : meansDirectory (Path.join root path) = false :=
    (Path.meansDirectory_join root relative).trans solid
  rw [readText, locate, fault?_join sound relative clear]
  by_cases long : Path.isTooLong (Path.join root path) = true
  · rw [if_pos long, if_pos long]
    rfl
  rw [if_neg long, if_neg long, begin, Path.names_join nonempty relative, follow_append, led]
  rcases follow_below here proper below with ⟨stands, followed⟩ | ⟨absent, e, failed⟩
  · obtain ⟨inner, reached⟩ := Option.isSome_iff_exists.1 stands
    have behind : tree.root.find? (place ++ Path.names path) = some inner := by
      rw [FileNode.find?_append, here]
      exact reached
    simp only [bind, Except.bind, followed, behind, reached, ends]
    cases inner with
    | file text => cases text <;> rfl
    | directory entries => rfl
  · simp only [bind, Except.bind, failed, absent]
    rfl

/-- Where a text can be read, a file stands. -/
theorem node?_of_readText {path : Path} {t : Text} (read : tree.readText path = .ok t) :
    tree.node? path = some (.file (some t)) := by
  rw [readText] at read
  rw [node?]
  cases located : tree.locate path with
  | error e => simp [located, bind, Except.bind] at read
  | ok found =>
      obtain ⟨place, node⟩ := found
      simp only [located, bind, Except.bind] at read
      split at read <;> simp_all

/-- Where names lead to a directory, the path leads to it, too. -/
theorem node?_of_follow {path : Path} {place : List Text} {entries : List (Text × FileNode)}
    (sound : fault? path = none)
    (led : tree.follow (tree.start path) (Path.names path) = .ok place)
    (here : tree.root.find? place = some (.directory entries)) :
    tree.node? path = some (.directory entries) := by
  rw [node?, locate, sound, led]
  simp only [bind, Except.bind, here]

/-- Paths that begin at one place and lead through the same names to the same kind of node have the
same text. -/
theorem readText_congr {path other : Path} (fault : fault? path = fault? other)
    (begins : tree.start path = tree.start other) (names : Path.names path = Path.names other)
    (ends : meansDirectory path = meansDirectory other) :
    tree.readText path = tree.readText other := by
  rw [readText, readText, locate, locate, fault, begins, names, ends]

end FileTree

/-! ### Operations on the tree -/

/-- Running one operation behind another. -/
theorem run_bind_of_run {α β : Type} {tree after : FileTree} {first : StateM FileTree α} {a : α}
    (ran : first.run tree = (a, after)) (next : α → StateM FileTree β) :
    (first >>= next).run tree = (next a).run after := by
  rw [StateT.run_bind, ran]
  rfl

/-- Reading a text leaves the tree as it is. -/
theorem run_readText (tree : FileTree) (path : Path) :
    (readText path : StateM FileTree _).run tree = (tree.readText path, tree) :=
  rfl

/-- Listing files leaves the tree as it is. -/
theorem run_survey [DirectoryWalk] (tree : FileTree) (path : Path) :
    (survey path : StateM FileTree _).run tree = (tree.survey path, tree) :=
  rfl

/-- Asking for a directory leaves the tree as it is. -/
theorem run_isDirectory (tree : FileTree) (path : Path) :
    (isDirectory path : StateM FileTree _).run tree =
      ((tree.node? path).map FileNode.kind == some .directory, tree) :=
  rfl

/-! ### Surveys -/

namespace FileNode

/-- Below a proper directory that can be read, the files that names lead to are reached. -/
theorem IsProper.reached_iff {path : Path} {node : FileNode} (proper : node.IsProper)
    (readable : node.IsReadable path) {file : List Text} :
    node.Reached path file ↔ ∃ text, node.find? file = some (.file text) := by
  induction proper generalizing path file with
  | file text =>
      constructor
      · rintro ⟨⟩
        exact ⟨text, rfl⟩
      · rintro ⟨_, found⟩
        cases file with
        | nil => exact .here text
        | cons name file => simp [find?_file] at found
  | @directory entries distinct named each ih =>
      obtain _ | ⟨short, below⟩ := readable
      constructor
      · rintro (_ | ⟨_, inside, rest⟩)
        rw [find?, FileNode.entries, lookup_of_nodup distinct inside]
        exact (ih _ inside (below _ inside)).1 rest
      · rintro ⟨text, found⟩
        cases file with
        | nil => simp [find?] at found
        | cons name file =>
            rw [find?, FileNode.entries] at found
            cases here : entries.lookup name with
            | none => simp [here] at found
            | some inner =>
                rw [here] at found
                have inside := mem_of_lookup here
                exact .inside short inside ((ih _ inside (below _ inside)).2 ⟨text, found⟩)

/-- A survey without a gap lists the files that names lead to. -/
theorem mem_survey_iff [DirectoryWalk] {path : Path} {node : FileNode} (proper : node.IsProper)
    (readable : (DirectoryWalk.survey path node).gap = none) {file : List Text} :
    file ∈ (DirectoryWalk.survey path node).files ↔
      ∃ text, node.find? file = some (.file text) := by
  rw [DirectoryWalk.mem_files_iff, proper.reached_iff (DirectoryWalk.gap_eq_none_iff.1 readable)]

end FileNode

end MailTemplate
