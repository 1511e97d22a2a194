/-
Module: MailTemplate.Proofs.Loading
Purpose: Loading a component is reading the text at the path that its name stands for.
Main exports: Path.isCanonical, componentFile?_eq_some_iff, names_componentPath,
  FileNode.reached_of_find?, FileTree.textAt?, readMarkups_run, FileTree.mem_survey_of_readText,
  textAt?_names, loader_eq_readText
-/
import MailTemplate.Component.Directory
import MailTemplate.Proofs.FileTree
import MailTemplate.Proofs.Tag

/-!
The markup of a components directory is read before any of it is needed, file by file as a survey
lists them, while a name that is not refused stands for one path.  Loading finds the text that
reading this path finds.  This holds of every tree, also of one in which entries share a name or
have a name that no path can write, and of every directory, also of one that cannot be surveyed as a
whole: what a survey leaves out has a path too long to be read.
-/

namespace MailTemplate

/-! ### Canonical names -/

namespace Path

/-- Whether all pieces of a path are names. -/
def isCanonical (path : Path) : Bool :=
  !path.contains '\x00' && (pieces path).all isNamePiece

/-- A canonical path is one of names alone. -/
theorem isCanonical_iff {path : Path} : path.isCanonical = true ↔
    '\x00' ∉ path ∧ ∀ piece ∈ pieces path, isNamePiece piece = true := by
  simp [isCanonical]

/-- A piece that is longer than two dots is a name. -/
theorem isNamePiece_of_length {piece : Text} (long : 2 < piece.length) :
    isNamePiece piece = true := by
  match piece, long with
  | _ :: _ :: _ :: _, _ => simp [isNamePiece, isIdle, up]

/-- All pieces of a canonical path are names. -/
theorem filter_pieces_of_isCanonical {path : Path} (canonical : path.isCanonical = true) :
    (pieces path).filter isNamePiece = pieces path :=
  List.filter_eq_self.2 (isCanonical_iff.1 canonical).2

/-- Names with slashes between them make up a canonical path, and are its pieces. -/
theorem pieces_join_names {row : List Text} (nonempty : row ≠ [])
    (named : ∀ piece ∈ row, isNamePiece piece = true ∧ '/' ∉ piece ∧ '\x00' ∉ piece) :
    pieces (Text.join ['/'] row) = row ∧ isCanonical (Text.join ['/'] row) = true := by
  have whole := pieces_join nonempty fun piece inside => (named piece inside).2.1
  refine ⟨whole, ?_⟩
  rw [isCanonical_iff, whole]
  refine ⟨fun nul => ?_, fun piece inside => (named piece inside).1⟩
  rcases mem_of_mem_intercalate nul with slash | ⟨piece, inside, here⟩
  · exact absurd slash (by decide)
  · exact (named piece inside).2.2 here

/-- The names of a canonical path are its pieces. -/
theorem names_of_isCanonical {path : Path} (canonical : path.isCanonical = true) :
    names path = pieces path := by
  rw [names, List.filter_eq_self]
  intro piece inside
  have own := (isCanonical_iff.1 canonical).2 piece inside
  simp [(isNamePiece_iff.1 own).1]

/-- No piece of a canonical path is idle or leads up. -/
theorem ne_of_isCanonical {path : Path} (canonical : path.isCanonical = true) :
    [] ∉ pieces path ∧ ['.'] ∉ pieces path ∧ up ∉ pieces path := by
  have own := (isCanonical_iff.1 canonical).2
  refine ⟨fun inside => ?_, fun inside => ?_, fun inside => ?_⟩ <;>
  · exact absurd (own _ inside) (by decide)

/-- A canonical path is relative. -/
theorem isAbsolute_of_isCanonical {path : Path} (canonical : path.isCanonical = true) :
    isAbsolute path = false := by
  by_contra absolute
  obtain ⟨rest, rfl⟩ : ∃ rest, path = '/' :: rest := by
    simpa [isAbsolute, List.head?_eq_some_iff] using absolute
  have first : [] ∈ pieces ([] ++ '/' :: rest) := by
    rw [pieces_slash]
    exact List.mem_append_left _ (by decide)
  exact (ne_of_isCanonical canonical).1 first

/-- A path ends in a piece, behind folders. -/
theorem exists_stem (path : Path) : ∃ folders stem, pieces path = folders ++ [stem] :=
  ⟨_, _, (List.dropLast_append_getLast (pieces_ne_nil path)).symm⟩

/-- A canonical path does not insist on a directory. -/
theorem meansDirectory_of_isCanonical {path : Path} (canonical : path.isCanonical = true) :
    FileTree.meansDirectory path = false := by
  obtain ⟨folders, stem, split⟩ := exists_stem path
  have own := (isCanonical_iff.1 canonical).2 stem (by simp [split])
  simp [FileTree.meansDirectory, split, (isNamePiece_iff.1 own).1]

end Path

/-! ### Lengths of paths -/

namespace Path

/-- A base stands in front of all relative paths that are seen from it. -/
theorem exists_front (base : Path) : ∃ front, base <+: front ∧
    ∀ path, isAbsolute path = false → join base path = front ++ path := by
  by_cases ends : (base.isEmpty || base.getLast? == some '/') = true
  · exact ⟨base, List.prefix_rfl, fun path relative => by
      rw [join, if_neg (by simp [relative]), if_pos ends]⟩
  · refine ⟨base ++ ['/'], List.prefix_append _ _, fun path relative => ?_⟩
    rw [join, if_neg (by simp [relative]), if_neg ends]
    simp

/-- Pieces of a path with a slash behind each of them. -/
def slashed (row : List Text) : Text :=
  row.flatMap fun piece => piece ++ ['/']

/-- A piece takes its own length and a slash. -/
theorem byteLength_slashed_cons (piece : Text) (row : List Text) :
    Text.byteLength (slashed (piece :: row)) =
      Text.byteLength piece + 1 + Text.byteLength (slashed row) := by
  rw [slashed, List.flatMap_cons, Text.byteLength_append, Text.byteLength_append, slashed]
  rfl

/-- Rows with slashes are put together one behind the other. -/
theorem slashed_append (row more : List Text) :
    slashed (row ++ more) = slashed row ++ slashed more :=
  List.flatMap_append

/-- Pieces with slashes between them lack the slash at the end. -/
theorem join_slash {row : List Text} (nonempty : row ≠ []) :
    Text.join ['/'] row ++ ['/'] = slashed row := by
  induction row with
  | nil => exact absurd rfl nonempty
  | cons piece row ih =>
      rw [slashed, List.flatMap_cons]
      by_cases last : row = []
      · subst last
        rw [Text.join_singleton, List.flatMap_nil, List.append_nil]
      · rw [Text.join_cons _ _ last, List.append_assoc, List.append_assoc, ih last, slashed,
          List.append_assoc]

/-- Leaving pieces out makes a row no longer. -/
theorem byteLength_slashed_filter_le (p : Text → Bool) (row : List Text) :
    Text.byteLength (slashed (row.filter p)) ≤ Text.byteLength (slashed row) := by
  induction row with
  | nil => exact Nat.le_refl _
  | cons piece row ih =>
      rw [List.filter_cons, byteLength_slashed_cons]
      split
      · rw [byteLength_slashed_cons]
        omega
      · omega

/-- The names of a path take no more bytes than the path. -/
theorem byteLength_names_le (path : Path) :
    Text.byteLength (slashed (names path)) ≤ Text.byteLength path + 1 := by
  have fewer := byteLength_slashed_filter_le (fun piece => !isIdle piece) (pieces path)
  rw [← join_slash (pieces_ne_nil path), join_pieces, Text.byteLength_append] at fewer
  exact fewer

/-- A joined path is longer than both by a slash at most. -/
theorem byteLength_join_le (base path : Path) :
    Text.byteLength (join base path) ≤ Text.byteLength base + (Text.byteLength path + 1) := by
  have slash : Text.byteLength ['/'] = 1 := by decide
  rw [join]
  split
  · omega
  · split
    · rw [Text.byteLength_append]
      omega
    · rw [← List.singleton_append, Text.byteLength_append, Text.byteLength_append, slash]
      omega

end Path

/-! ### The path of a component -/

/-- A name stays below the root if it is relative, does not begin with a dot, and never leads up. -/
theorem staysBelow_iff_pieces {name : Text} : staysBelow name = true ↔
    Path.isAbsolute name = false ∧ (Path.pieces name).head? ≠ some ['.'] ∧
      Path.up ∉ Path.pieces name := by
  simp [staysBelow, and_assoc]

/-- The file of a component, by what a name has to be like. -/
theorem componentFile?_eq_some_iff {name : Text} {file : List Text} :
    componentFile? name = some file ↔ name ≠ [] ∧ '\x00' ∉ name ∧ staysBelow name = true ∧
      Path.names (componentPath name) = file := by
  have refused : (name.isEmpty || name.contains '\x00' || !staysBelow name) = true ↔
      name = [] ∨ '\x00' ∈ name ∨ staysBelow name = false := by
    simp [or_assoc]
  rw [componentFile?]
  split
  · rename_i barred
    rcases refused.1 barred with own | own | own <;> simp [own]
  · rename_i admitted
    rw [refused, not_or, not_or, Bool.not_eq_false] at admitted
    simp [admitted]

/-- The extension is put on the last piece of a name. -/
theorem pieces_componentPath {name stem : Text} {folders : List Text}
    (split : Path.pieces name = folders ++ [stem]) :
    Path.pieces (componentPath name) = folders ++ [componentPath stem] := by
  have whole : componentPath name = Text.join ['/'] (folders ++ [componentPath stem]) := by
    rw [componentPath, componentPath, Text.join_append, ← split, Path.join_pieces]
    simp [Text.join]
  have plain (piece : Text) (inside : piece ∈ folders ++ [stem]) : '/' ∉ piece :=
    Path.not_mem_of_mem_pieces (split ▸ inside)
  rw [whole]
  refine Path.pieces_join (by simp) fun piece inside => ?_
  rcases List.mem_append.1 inside with early | last
  · exact plain piece (List.mem_append_left _ early)
  · rw [List.mem_singleton.1 last, componentPath, List.mem_append, not_or]
    exact ⟨plain stem (by simp), by decide⟩

/-- With the extension of markup, every stem is a file name. -/
theorem isNamePiece_componentPath (stem : Text) :
    Path.isNamePiece (componentPath stem) = true := by
  refine Path.isNamePiece_of_length ?_
  simp [componentPath, markupExtension]

/-- The last name of a component's path has the extension. -/
theorem names_componentPath {name stem : Text} {folders : List Text}
    (split : Path.pieces name = folders ++ [stem]) :
    Path.names (componentPath name) =
      folders.filter (fun piece => !Path.isIdle piece) ++ [componentPath stem] := by
  rw [Path.names, pieces_componentPath split, List.filter_append]
  simp [(Path.isNamePiece_iff.1 (isNamePiece_componentPath stem)).1]

/-- The path of a component has a file name. -/
theorem names_componentPath_ne_nil (name : Text) : Path.names (componentPath name) ≠ [] := by
  obtain ⟨folders, stem, split⟩ := Path.exists_stem name
  simp [names_componentPath split]

/-- The path of a component insists on no directory. -/
theorem meansDirectory_componentPath (name : Text) :
    FileTree.meansDirectory (componentPath name) = false := by
  obtain ⟨folders, stem, split⟩ := Path.exists_stem name
  have solid := (Path.isNamePiece_iff.1 (isNamePiece_componentPath stem)).1
  simp [FileTree.meansDirectory, pieces_componentPath split, solid]

/-- With the extension, a name stays below if it does without. -/
theorem staysBelow_componentPath {name : Text} (below : staysBelow name = true) :
    staysBelow (componentPath name) = true := by
  obtain ⟨relative, first, up⟩ := staysBelow_iff_pieces.1 below
  obtain ⟨folders, stem, split⟩ := Path.exists_stem name
  obtain ⟨solid, other⟩ := Path.isNamePiece_iff.1 (isNamePiece_componentPath stem)
  rw [split] at first up
  rw [staysBelow_iff_pieces, pieces_componentPath split]
  refine ⟨?_, ?_, ?_⟩
  · cases name with
    | nil => rfl
    | cons c name => exact relative
  · cases folders with
    | nil =>
        intro same
        rw [Option.some.inj same] at solid
        exact absurd solid (by decide)
    | cons folder folders => exact first
  · rw [List.mem_append, List.mem_singleton, not_or]
    exact ⟨fun inside => up (List.mem_append_left _ inside), Ne.symm other⟩

/-- With the extension, a canonical name stays canonical. -/
theorem isCanonical_componentPath {name : Text} (canonical : Path.isCanonical name = true) :
    Path.isCanonical (componentPath name) = true := by
  obtain ⟨clear, named⟩ := Path.isCanonical_iff.1 canonical
  obtain ⟨folders, stem, split⟩ := Path.exists_stem name
  rw [Path.isCanonical_iff, pieces_componentPath split]
  constructor
  · rw [componentPath, List.mem_append, not_or]
    exact ⟨clear, by decide⟩
  · intro piece inside
    rcases List.mem_append.1 inside with early | last
    · exact named piece (split ▸ List.mem_append_left _ early)
    · rw [List.mem_singleton.1 last]
      exact isNamePiece_componentPath stem

/-- The loader looks for a canonical name in the file that the catalog would name so. -/
theorem componentFile?_of_isCanonical {name : Text} (canonical : Path.isCanonical name = true) :
    componentFile? name = some (Path.pieces (componentPath name)) := by
  obtain ⟨empty, dot, up⟩ := Path.ne_of_isCanonical canonical
  have relative := Path.isAbsolute_of_isCanonical canonical
  have first : (Path.pieces name).head? ≠ some ['.'] := fun first =>
    dot (List.mem_of_mem_head? first)
  refine componentFile?_eq_some_iff.2 ⟨?_, (Path.isCanonical_iff.1 canonical).1,
    staysBelow_iff_pieces.2 ⟨relative, first, up⟩,
    Path.names_of_isCanonical (isCanonical_componentPath canonical)⟩
  rintro rfl
  exact empty (by decide)

/-- The file of a component holds markup. -/
theorem holdsMarkup_concat (folders : List Text) (stem : Text) :
    holdsMarkup (folders ++ [componentPath stem]) = true := by
  rw [holdsMarkup, List.getLast?_concat]
  exact List.isSuffixOf_iff_suffix.2 (List.suffix_append _ _)

/-! ### What a survey lists -/

namespace FileNode

/-- Below a file there is nothing. -/
theorem find?_file_concat (text : Option Text) (folders : List Text) (last : Text) :
    (FileNode.file text).find? (folders ++ [last]) = none := by
  cases folders <;> rfl

/-- A file to which names lead is reached, if the directories on the way have paths that are not too
long. -/
theorem reached_of_find? {node : FileNode} {path : Path} {folders : List Text} {last : Text}
    {text : Option Text} (found : node.find? (folders ++ [last]) = some (.file text))
    (short : Text.byteLength path + Text.byteLength (Path.slashed folders) < Path.lengthLimit) :
    node.Reached path (folders ++ [last]) := by
  induction folders generalizing node path with
  | nil =>
      cases node with
      | file other => exact absurd found (by simp [find?_file])
      | directory entries =>
          rw [List.nil_append, find?] at found
          split at found
          · exact absurd found (by simp)
          · rename_i inner here
            obtain rfl : inner = .file text := Option.some.inj found
            refine .inside ?_ (mem_of_lookup here) (.here text)
            rw [Path.isTooLong, decide_eq_false_iff_not]
            omega
  | cons name folders ih =>
      cases node with
      | file other => exact absurd found (by simp [find?_file])
      | directory entries =>
          rw [List.cons_append, find?] at found
          rw [Path.byteLength_slashed_cons] at short
          split at found
          · exact absurd found (by simp)
          · rename_i inner here
            have step := Path.byteLength_join_le path name
            refine .inside ?_ (mem_of_lookup here) (ih found (by omega))
            rw [Path.isTooLong, decide_eq_false_iff_not]
            omega

end FileNode

/-! ### Reading the directory -/

/-- What is found under a key of a list that a function makes from keys. -/
theorem lookup_filterMap {α β : Type} [BEq α] [LawfulBEq α] (f : α → Option β) (keys : List α)
    (key : α) :
    (keys.filterMap fun key => (f key).map fun value => (key, value)).lookup key =
      if keys.contains key then f key else none := by
  induction keys with
  | nil => rfl
  | cons first keys ih =>
      by_cases same : key = first
      · subst same
        cases value : f key with
        | none => simp [value, ih]
        | some v => simp [value]
      · have other : (key == first) = false := by simpa using same
        cases value : f first <;> simp [value, List.lookup_cons, other, ih, same]

/-- The text at names that lead from a directory, if it can be read. -/
def FileTree.textAt? (tree : FileTree) (root : Path) (file : List Text) : Option Text :=
  (tree.readText (Path.join root (Text.join ['/'] file))).toOption

/-- Reading files leaves the tree as it is, and gives those that are texts. -/
theorem readFiles_run (tree : FileTree) (root : Path) (files : List (List Text)) :
    (readFiles root files : StateM FileTree _).run tree =
      (files.filterMap fun file => (tree.textAt? root file).map fun text => (file, text), tree) := by
  induction files with
  | nil => rfl
  | cons file files ih =>
      rw [readFiles, run_bind_of_run (run_readText tree _), run_bind_of_run ih, List.filterMap_cons,
        FileTree.textAt?]
      cases tree.readText (Path.join root (Text.join ['/'] file)) <;> rfl

/-- The directory of components as it is surveyed. -/
def surveyedRoot (root : Path) : Path :=
  if root.isEmpty then ['.'] else root

/-- The markup of a directory are the texts of those of its files that can hold markup and can be
read. -/
theorem readMarkups_run_surveyed [DirectoryWalk] (tree : FileTree) (root : Path) :
    (readMarkups root : StateM FileTree _).run tree =
      (⟨root, ((tree.survey (surveyedRoot root)).files.filter holdsMarkup).filterMap fun file =>
        (tree.textAt? root file).map fun text => (file, text)⟩, tree) := by
  rw [readMarkups, ← surveyedRoot, run_bind_of_run (run_survey tree _),
    run_bind_of_run (readFiles_run tree root _)]
  rfl

/-- The markups below a directory, as a survey lists them and the tree has their texts. -/
theorem readMarkups_run [DirectoryWalk] {root : Path} (nonempty : root ≠ []) (tree : FileTree) :
    (readMarkups root : StateM FileTree _).run tree =
      (⟨root, ((tree.survey root).files.filter holdsMarkup).filterMap fun file =>
        (tree.textAt? root file).map fun text => (file, text)⟩, tree) := by
  have same : surveyedRoot root = root := by simp [surveyedRoot, nonempty]
  rw [readMarkups_run_surveyed, same]

/-! ### Paths seen from the directory -/

namespace Path

variable {root path : Path}

/-- The names of a path below the root are those of the root, then its own. -/
theorem names_join_surveyed (root : Path) (relative : isAbsolute path = false) :
    names (join root path) = names (surveyedRoot root) ++ names path := by
  by_cases empty : root = []
  · subst empty
    rw [join_nil relative]
    rfl
  · rw [surveyedRoot, if_neg (by simpa using empty), names_join empty relative]

/-- A path below the root starts where the root starts. -/
theorem start_join (tree : FileTree) (root : Path) (relative : isAbsolute path = false) :
    tree.start (join root path) = tree.start (surveyedRoot root) := by
  by_cases empty : root = []
  · subst empty
    rw [join_nil relative, FileTree.start, FileTree.start, relative]
    rfl
  · rw [surveyedRoot, if_neg (by simpa using empty), FileTree.start, FileTree.start,
      isAbsolute_join empty relative]

/-- A path is not too long to be surveyed from if a path that is seen from it can be read. -/
theorem fault?_surveyedRoot (relative : isAbsolute path = false)
    (sound : FileTree.fault? (join root path) = none) :
    FileTree.fault? (surveyedRoot root) = none := by
  obtain ⟨front, ⟨more, rfl⟩, whole⟩ := exists_front root
  obtain ⟨clear, _, short⟩ := FileTree.of_fault?_eq_none sound
  rw [whole path relative] at clear short
  by_cases empty : root = []
  · subst empty
    decide
  · have own : '\x00' ∉ root := fun inside => clear (by simp [inside])
    rw [isTooLong, decide_eq_false_iff_not, Text.byteLength_append, Text.byteLength_append] at short
    have brief : isTooLong root = false := by
      rw [isTooLong, decide_eq_false_iff_not]
      omega
    rw [surveyedRoot, if_neg (by simpa using empty), FileTree.fault?]
    simp [own, empty, brief]

end Path

/-! ### Loading -/

section Loading

variable {tree : FileTree} {root : Path} {name : Text}

/-- Where a component's file can be read, the directories on the way can be surveyed. -/
theorem byteLength_folders_lt (relative : Path.isAbsolute (componentPath name) = false)
    {folders : List Text} {stem : Text}
    (names : Path.names (componentPath name) = folders ++ [componentPath stem])
    (short : Path.isTooLong (Path.join root (componentPath name)) = false) :
    Text.byteLength (surveyedRoot root) + Text.byteLength (Path.slashed folders) <
      Path.lengthLimit := by
  obtain ⟨front, ⟨more, rfl⟩, whole⟩ := Path.exists_front root
  have fewer := Path.byteLength_names_le (componentPath name)
  have extension : Text.byteLength (componentPath stem) = Text.byteLength stem + 5 :=
    Text.byteLength_append stem _
  have seen : Text.byteLength (surveyedRoot root) ≤ Text.byteLength root + 1 := by
    rw [surveyedRoot]
    split
    · exact Nat.le_add_left 1 _
    · exact Nat.le_succ _
  rw [whole _ relative, Path.isTooLong, decide_eq_false_iff_not, Text.byteLength_append,
    Text.byteLength_append] at short
  rw [names, Path.slashed_append, Text.byteLength_append, Path.byteLength_slashed_cons] at fewer
  omega

/-- A component's file that can be read is listed where the directory is surveyed. -/
theorem FileTree.mem_survey_of_readText [DirectoryWalk] (below : staysBelow name = true) {t : Text}
    (read : tree.readText (Path.join root (componentPath name)) = .ok t) :
    Path.names (componentPath name) ∈ (tree.survey (surveyedRoot root)).files := by
  obtain ⟨relative, _, up⟩ := staysBelow_iff_pieces.1 (staysBelow_componentPath below)
  obtain ⟨sound, place, led, stands⟩ := of_node? (node?_of_readText read)
  have own := Path.fault?_surveyedRoot relative sound
  rw [Path.start_join tree root relative, Path.names_join_surveyed root relative,
    follow_append] at led
  cases first : tree.follow (tree.start (surveyedRoot root)) (Path.names (surveyedRoot root)) with
  | error e => simp [first, Except.bind] at led
  | ok middle =>
      rw [first] at led
      obtain rfl := of_follow (fun inside => up (Path.up_mem_names_iff.1 inside)) led
      rw [FileNode.find?_append, Option.bind_eq_some_iff] at stands
      obtain ⟨node, here, found⟩ := stands
      obtain ⟨folders, stem, split⟩ := Path.exists_stem name
      have names := names_componentPath split
      rw [names] at found ⊢
      cases node with
      | file text =>
          exact absurd found (by simp [FileNode.find?_file_concat])
      | directory entries =>
          rw [survey_of_node? (node?_of_follow own first here)]
          exact DirectoryWalk.mem_files_iff.2 (FileNode.reached_of_find? found
            (byteLength_folders_lt relative names (of_fault?_eq_none sound).2.2))

/-- Of two paths without the character that ends paths, seen from one directory, neither has a fault
that the other has not, if both are not too long. -/
theorem fault?_join_congr {path other : Path} (relative : Path.isAbsolute path = false)
    (relativeOther : Path.isAbsolute other = false) (nonempty : path ≠ [])
    (nonemptyOther : other ≠ []) (clear : '\x00' ∉ path) (clearOther : '\x00' ∉ other)
    (short : Path.isTooLong (Path.join root path) = false)
    (shortOther : Path.isTooLong (Path.join root other) = false) :
    FileTree.fault? (Path.join root path) = FileTree.fault? (Path.join root other) := by
  obtain ⟨front, _, whole⟩ := Path.exists_front root
  rw [whole path relative] at short ⊢
  rw [whole other relativeOther] at shortOther ⊢
  simp [FileTree.fault?, clear, clearOther, nonempty, nonemptyOther, short, shortOther]

/-- The text at the names to a component's file is the text at its path, unless that is too long. -/
theorem textAt?_names (below : staysBelow name = true) (clear : '\x00' ∉ name)
    (short : Path.isTooLong (Path.join root (componentPath name)) = false) :
    tree.textAt? root (Path.names (componentPath name)) =
      (tree.readText (Path.join root (componentPath name))).toOption := by
  obtain ⟨relative, _, up⟩ := staysBelow_iff_pieces.1 (staysBelow_componentPath below)
  have clear : '\x00' ∉ componentPath name := by
    rw [componentPath, List.mem_append, not_or]
    exact ⟨clear, by decide⟩
  have nonempty := names_componentPath_ne_nil name
  have named (piece : Text) (inside : piece ∈ Path.names (componentPath name)) :
      Path.isNamePiece piece = true ∧ '/' ∉ piece ∧ '\x00' ∉ piece := by
    obtain ⟨own, solid⟩ := Path.mem_names_iff.1 inside
    refine ⟨Path.isNamePiece_iff.2 ⟨solid, ?_⟩, Path.not_mem_of_mem_pieces own,
      fun nul => clear (Text.subset_of_mem_splitOn own nul)⟩
    rintro rfl
    exact up own
  obtain ⟨pieces, canonical⟩ := Path.pieces_join_names nonempty named
  have seen := Path.isAbsolute_of_isCanonical canonical
  have fewer := Path.byteLength_names_le (componentPath name)
  rw [← Path.join_slash nonempty, Text.byteLength_append] at fewer
  have fewer : Text.byteLength (Text.join ['/'] (Path.names (componentPath name))) ≤
      Text.byteLength (componentPath name) := Nat.le_of_succ_le_succ fewer
  -- Idle pieces are left out, so this path is no longer than the other.
  have shorter : Path.isTooLong (Path.join root (Text.join ['/'] (Path.names (componentPath name))))
      = false := by
    obtain ⟨front, _, whole⟩ := Path.exists_front root
    rw [whole _ relative, Path.isTooLong, decide_eq_false_iff_not, Text.byteLength_append] at short
    rw [whole _ seen, Path.isTooLong, decide_eq_false_iff_not, Text.byteLength_append]
    omega
  rw [FileTree.textAt?]
  refine congrArg _ (FileTree.readText_congr ?_ ?_ ?_ ?_)
  · refine fault?_join_congr seen relative ?_ (by simp [componentPath])
      (Path.isCanonical_iff.1 canonical).1 clear shorter short
    intro empty
    rw [empty] at pieces
    exact (Path.ne_of_isCanonical canonical).1 (by rw [empty]; decide)
  · rw [Path.start_join tree root seen, Path.start_join tree root relative]
  · rw [Path.names_join_surveyed root seen, Path.names_join_surveyed root relative,
      Path.names_of_isCanonical canonical, pieces]
  · rw [Path.meansDirectory_join root seen, Path.meansDirectory_join root relative,
      Path.meansDirectory_of_isCanonical canonical, meansDirectory_componentPath]

/-- Loading a component whose name is not refused is reading its path. -/
theorem loader_eq_readText [DirectoryWalk] {file : List Text}
    (accepted : componentFile? name = some file) :
    Markups.loader ((readMarkups root : StateM FileTree _).run tree).1 name =
      (tree.readText (Path.join root (componentPath name))).toOption := by
  obtain ⟨_, clear, below, rfl⟩ := componentFile?_eq_some_iff.1 accepted
  rw [readMarkups_run_surveyed, Markups.loader]
  by_cases long : Path.isTooLong (Path.join root (componentPath name)) = true
  · rw [if_pos long]
    cases read : tree.readText (Path.join root (componentPath name)) with
    | error e => rfl
    | ok t =>
        have sound := (FileTree.of_node? (FileTree.node?_of_readText read)).1
        have short := (FileTree.of_fault?_eq_none sound).2.2
        exact absurd (long.symm.trans short) (by simp)
  · rw [if_neg long, accepted, Option.bind_some, lookup_filterMap,
      textAt?_names below clear (by simpa using long)]
    split
    · rfl
    · rename_i unlisted
      cases read : tree.readText (Path.join root (componentPath name)) with
      | error e => rfl
      | ok t =>
          have listed := FileTree.mem_survey_of_readText below read
          obtain ⟨folders, stem, split⟩ := Path.exists_stem name
          have markup := holdsMarkup_concat (folders.filter fun piece => !Path.isIdle piece) stem
          rw [← names_componentPath split] at markup
          exact absurd (by simp [listed, markup]) unlisted

end Loading

end MailTemplate
