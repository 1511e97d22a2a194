/-
Module: MailTemplate.Files.Access
Purpose: What the library asks of a file system, and what can go wrong there.
Main exports: FileError, FileError.message, FileKind, Survey, FileAccess, FileSurvey, makeDirectories,
  writeThrough
-/
import MailTemplate.Files.Path

/-!
Everything that reads or writes files does so through six operations, so that it runs on the file system of
a machine and on a model of one alike.  What lies below a directory is asked of a library that walks
directories.
-/

namespace MailTemplate

/-- Why a file cannot be read or written. -/
inductive FileError where
  | notFound
  | alreadyExists
  | notDirectory
  | isDirectory
  | nameTooLong
  /-- The path holds the character that ends paths. -/
  | nulCharacter
  /-- The bytes of the file are no text. -/
  | notText
  /-- Any other error of the system, with its number. -/
  | other (reason : Text) (code : Nat)
deriving Repr, Inhabited, DecidableEq

namespace FileError

/-- An error of the system with its number behind it. -/
def numbered (reason : Text) (code : Nat) : Text :=
  reason ++ " (os error ".toList ++ Text.ofNat code ++ [')']

/-- What is said about an error. -/
def message : FileError → Text
  | .notFound => numbered "No such file or directory".toList 2
  | .alreadyExists => numbered "File exists".toList 17
  | .notDirectory => numbered "Not a directory".toList 20
  | .isDirectory => numbered "Is a directory".toList 21
  | .nameTooLong => numbered "File name too long".toList 36
  | .nulCharacter => "file name contained an unexpected NUL byte".toList
  | .notText => "stream did not contain valid UTF-8".toList
  | .other reason code => numbered reason code

end FileError

/-- What a path leads to. -/
inductive FileKind where
  | file
  | directory
deriving Repr, Inhabited, DecidableEq

/-- What is found below a directory. -/
structure Survey where
  /-- The files, in any order, each by the names that lead to it from the directory. -/
  files : List (List Text)
  /-- A directory that cannot be read, if there is one, and why. -/
  gap : Option (Path × FileError)
deriving Repr, Inhabited, DecidableEq

namespace Survey

/-- The survey that finds nothing. -/
def empty : Survey := ⟨[], none⟩

/-- A survey seen from the directory above. -/
def under (name : Text) (survey : Survey) : Survey :=
  { survey with files := survey.files.map (name :: ·) }

/-- Two surveys together. -/
def and (first second : Survey) : Survey :=
  ⟨first.files ++ second.files, first.gap.or second.gap⟩

end Survey

/-- The operations on files. -/
class FileAccess (m : Type → Type) where
  /-- The directory that relative paths are seen from. -/
  currentDirectory : m Path
  /-- What a path leads to, if anything. -/
  kind? : Path → m (Option FileKind)
  /-- The text of a file. -/
  readText : Path → m (Except FileError Text)
  /-- The names of the files in a directory, in any order; none if it cannot be read. -/
  filesIn : Path → m (List Text)
  /-- Makes a directory in one that exists. -/
  makeDirectory : Path → m (Except FileError Unit)
  /-- Makes a file or replaces its text. -/
  writeText : Path → Text → m (Except FileError Unit)

export FileAccess (currentDirectory kind? readText filesIn makeDirectory writeText)

/-- A library that walks directories. -/
class FileSurvey (m : Type → Type) where
  /-- What is found below a directory. -/
  survey : Path → m Survey

export FileSurvey (survey)

variable {m : Type → Type} [Monad m] [FileAccess m]

/-- Whether a path leads to a directory. -/
def isDirectory (path : Path) : m Bool := do
  return (← kind? path) == some .directory

/-- Makes a directory, or finds that it is there already. -/
def ensureDirectory (path : Path) : m (Except FileError Unit) := do
  match ← makeDirectory path with
  | .ok () => return .ok ()
  | .error e => if ← isDirectory path then return .ok () else return .error e

/-- Makes a directory with those that it lies in.  A parent is shorter than its path, so as many steps as
the path has characters lead to the empty path. -/
def makeDirectoriesWithin : Nat → Path → m (Except FileError Unit)
  | 0, _ => return .ok ()
  | steps + 1, path => do
      if path.isEmpty then return .ok ()
      match ← makeDirectory path with
      | .ok () => return .ok ()
      | .error .notFound =>
          match Path.parent? path with
          | none => return .error .notFound
          | some parent =>
              match ← makeDirectoriesWithin steps parent with
              | .error e => return .error e
              | .ok () => ensureDirectory path
      | .error e => if ← isDirectory path then return .ok () else return .error e

/-- Makes a directory with those that it lies in. -/
def makeDirectories (path : Path) : m (Except FileError Unit) :=
  makeDirectoriesWithin path.length path

/-- Writes a text to a file, making the directories that it lies in. -/
def writeThrough (path : Path) (t : Text) : m (Except FileError Unit) := do
  match ← makeDirectories ((Path.parent? path).getD []) with
  | .error e => return .error e
  | .ok () => writeText path t

end MailTemplate
