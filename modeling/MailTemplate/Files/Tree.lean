/-
Module: MailTemplate.Files.Tree
Purpose: A model of a file system: directories and files as a tree.
Main exports: FileNode, FileNode.Reached, DirectoryWalk, FileTree, FileTree.locate, FileTree.write,
  FileTree.removeFile
-/
import MailTemplate.Files.Access

/-!
The model has a root directory, a current directory, files whose bytes may be no text, and no links.  A
path is followed name by name: every name but the last must lead to a directory, and two dots lead to the
directory above, the root being above itself.  A path that ends in a slash or a dot means a directory, and
no file can be made there.

Walking directories is left to a library, of which no more is known than what its walks find.  A directory
whose path is too long cannot be read, and leaves a gap.
-/

namespace MailTemplate

/-- A file or a directory. -/
inductive FileNode where
  /-- A file, by its text if it is one. -/
  | file (text : Option Text)
  | directory (entries : List (Text × FileNode))
deriving Repr, Inhabited

namespace FileNode

/-- The directory without entries. -/
def empty : FileNode := .directory []

/-- The entries of a directory; a file has none. -/
def entries : FileNode → List (Text × FileNode)
  | .file _ => []
  | .directory entries => entries

/-- What a node is. -/
def kind : FileNode → FileKind
  | .file _ => .file
  | .directory _ => .directory

/-- The node that names lead to. -/
def find? : List Text → FileNode → Option FileNode
  | [], node => some node
  | name :: names, node =>
      match node.entries.lookup name with
      | none => none
      | some inner => find? names inner

/-- Puts a node under a name, in the place of the one that is there or behind the others. -/
def putEntry (name : Text) (node : FileNode) : List (Text × FileNode) → List (Text × FileNode)
  | [] => [(name, node)]
  | entry :: entries => if entry.1 = name then (name, node) :: entries else entry :: putEntry name node entries

/-- Puts a node where names lead to, making the directories on the way. -/
def insert (inner : FileNode) : List Text → FileNode → FileNode
  | [], _ => inner
  | name :: names, node =>
      .directory (putEntry name (insert inner names ((node.entries.lookup name).getD empty)) node.entries)

/-- Takes away what names lead to. -/
def remove : List Text → FileNode → FileNode
  | [], node => node
  | [name], node => .directory (node.entries.filter fun entry => entry.1 != name)
  | name :: names, node =>
      match node.entries.lookup name with
      | none => node
      | some inner => .directory (putEntry name (remove names inner) node.entries)

/-- A file is reached from a node at a path: names lead to it, and the directories on the way have paths that
are not too long. -/
inductive Reached : Path → FileNode → List Text → Prop where
  | here {path : Path} (text : Option Text) : Reached path (.file text) []
  | inside {path : Path} {entries : List (Text × FileNode)} {name : Text} {inner : FileNode}
      {names : List Text} (short : Path.isTooLong path = false) (entry : (name, inner) ∈ entries)
      (rest : Reached (Path.join path name) inner names) :
      Reached path (.directory entries) (name :: names)

/-- No directory at a path or below it has a path that is too long. -/
inductive IsReadable : Path → FileNode → Prop where
  | file {path : Path} (text : Option Text) : IsReadable path (.file text)
  | directory {path : Path} {entries : List (Text × FileNode)}
      (short : Path.isTooLong path = false)
      (each : ∀ entry ∈ entries, IsReadable (Path.join path entry.1) entry.2) :
      IsReadable path (.directory entries)

end FileNode

/-- A library that walks directories.  In which order it goes, and which of several gaps it tells about, is its
own affair. -/
class DirectoryWalk where
  /-- What is found at a path and below it. -/
  survey : Path → FileNode → Survey
  /-- A walk finds the files that are reached and no others. -/
  mem_files_iff : ∀ {path : Path} {node : FileNode} {file : List Text},
    file ∈ (survey path node).files ↔ node.Reached path file
  /-- A walk leaves no gap where every directory can be read. -/
  gap_eq_none_iff : ∀ {path : Path} {node : FileNode},
    (survey path node).gap = none ↔ node.IsReadable path

/-- A file system: its root and the names that lead to the current directory. -/
structure FileTree where
  root : FileNode
  current : List Text
deriving Repr, Inhabited

namespace FileTree

/-- The greatest length of a name, in bytes. -/
def nameLimit : Nat := 255

/-- Follows names from a directory; `place` are the names that lead to it. -/
def follow (tree : FileTree) (place : List Text) : List Text → Except FileError (List Text)
  | [] => .ok place
  | name :: names =>
      match tree.root.find? place with
      | none => .error .notFound
      | some (.file _) => .error .notDirectory
      | some (.directory entries) =>
          if name = Path.up then follow tree place.dropLast names
          else if nameLimit < Text.byteLength name then .error .nameTooLong
          else if (entries.lookup name).isSome then follow tree (place ++ [name]) names
          else .error .notFound

/-- Where a path begins. -/
def start (tree : FileTree) (path : Path) : List Text :=
  if Path.isAbsolute path then [] else tree.current

/-- Whether a path can only mean a directory. -/
def meansDirectory (path : Path) : Bool :=
  (Path.pieces path).getLast?.any Path.isIdle

/-- What is wrong with a path whatever it leads to. -/
def fault? (path : Path) : Option FileError :=
  if path.contains '\x00' then some .nulCharacter
  else if path.isEmpty then some .notFound
  else if Path.isTooLong path then some .nameTooLong
  else none

/-- The names that a path leads through to a node that exists, and the node. -/
def locate (tree : FileTree) (path : Path) : Except FileError (List Text × FileNode) := do
  match fault? path with
  | some e => .error e
  | none =>
      let place ← tree.follow (tree.start path) (Path.names path)
      match tree.root.find? place with
      | none => .error .notFound
      | some (.file t) => if meansDirectory path then .error .notDirectory else .ok (place, .file t)
      | some node => .ok (place, node)

/-- The directory that the last name of a path is looked up in, with its entries, and that name.  A path that
ends in dots has no last name and must itself lead to a directory. -/
def locateParent (tree : FileTree) (path : Path) :
    Except FileError (List Text × List (Text × FileNode) × Option Text) := do
  match fault? path with
  | some e => .error e
  | none =>
      let names := Path.names path
      let last := Path.lastName? path
      let place ← tree.follow (tree.start path) (if last.isSome then names.dropLast else names)
      match tree.root.find? place with
      | none => .error .notFound
      | some (.file _) => .error .notDirectory
      | some (.directory entries) => .ok (place, entries, last)

/-! ### The operations -/

/-- The text of a file. -/
def readText (tree : FileTree) (path : Path) : Except FileError Text := do
  match ← tree.locate path with
  | (_, .directory _) => .error .isDirectory
  | (_, .file none) => .error .notText
  | (_, .file (some t)) => .ok t

/-- The node that a path leads to. -/
def node? (tree : FileTree) (path : Path) : Option FileNode :=
  match tree.locate path with
  | .ok (_, node) => some node
  | .error _ => none

/-- The names of the files in a directory. -/
def filesIn (tree : FileTree) (path : Path) : List Text :=
  match tree.node? path with
  | some node => (node.entries.filter fun entry => entry.2.kind == .file).map (·.1)
  | none => []

/-- What is found below a directory. -/
def survey [DirectoryWalk] (tree : FileTree) (path : Path) : Survey :=
  match tree.node? path with
  | some (.directory entries) => DirectoryWalk.survey path (.directory entries)
  | _ => .empty

/-- Makes a directory in one that exists. -/
def makeDirectory (tree : FileTree) (path : Path) : Except FileError FileTree := do
  match ← tree.locateParent path with
  | (place, entries, some name) =>
      if nameLimit < Text.byteLength name then .error .nameTooLong
      else if (entries.lookup name).isSome then .error .alreadyExists
      else .ok { tree with root := FileNode.insert .empty (place ++ [name]) tree.root }
  | (_, _, none) => .error .alreadyExists

/-- Makes a file or replaces what it holds. -/
def write (tree : FileTree) (path : Path) (content : Option Text) : Except FileError FileTree := do
  match ← tree.locateParent path with
  | (place, entries, some name) =>
      if meansDirectory path then .error .isDirectory
      else if nameLimit < Text.byteLength name then .error .nameTooLong
      else
        match entries.lookup name with
        | some (.directory _) => .error .isDirectory
        | _ => .ok { tree with root := FileNode.insert (.file content) (place ++ [name]) tree.root }
  | (_, _, none) => .error .isDirectory

/-- Takes a file away. -/
def removeFile (tree : FileTree) (path : Path) : Except FileError FileTree := do
  match ← tree.locate path with
  | (_, .directory _) => .error .isDirectory
  | (place, .file _) => .ok { tree with root := FileNode.remove place tree.root }

end FileTree

/-- Runs an operation that may change a tree; one that fails changes nothing. -/
def FileTree.change (operation : FileTree → Except FileError FileTree) :
    StateM FileTree (Except FileError Unit) := do
  match operation (← get) with
  | .error e => return .error e
  | .ok tree =>
      set tree
      return .ok ()

instance : FileAccess (StateM FileTree) where
  currentDirectory := do return '/' :: Text.join ['/'] (← get).current
  kind? path := do return ((← get).node? path).map FileNode.kind
  readText path := do return (← get).readText path
  filesIn path := do return (← get).filesIn path
  makeDirectory path := FileTree.change (·.makeDirectory path)
  writeText path t := FileTree.change (·.write path (some t))

instance [DirectoryWalk] : FileSurvey (StateM FileTree) where
  survey path := do return (← get).survey path

end MailTemplate
