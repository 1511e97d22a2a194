/-
Module: MailTemplate.Component.Directory
Purpose: Components kept in a directory: their markup and the catalog of their names.
Main exports: Markups, Markups.loader, readMarkups, catalogOf, scanComponents
-/
import MailTemplate.Component.Name
import MailTemplate.Fault
import MailTemplate.Assembly

/-!
The files of a components directory are read once for each run, so that the run itself depends on nothing
but their texts.  A file that holds no text is as good as none for rendering, yet its name is in the
catalog.
-/

namespace MailTemplate

/-- The markup in a components directory. -/
structure Markups where
  root : Path
  /-- The texts, by the names that lead to them from the root. -/
  texts : List (List Text × Text)
deriving Repr, Inhabited

/-- Finds the markup of a component.  A name whose path is too long finds nothing, even if a shorter way of
writing it does. -/
def Markups.loader (markups : Markups) : Loader := fun name =>
  if Path.isTooLong (Path.join markups.root (componentPath name)) then none
  else (componentFile? name).bind fun file => markups.texts.lookup file

/-- Whether a file may hold the markup of a component. -/
def holdsMarkup (file : List Text) : Bool :=
  file.getLast?.any fun last => ('.' :: markupExtension).isSuffixOf last

/-- The components in a directory, by the files below it. -/
def catalogOf (files : List (List Text)) : Names :=
  Names.ofList (files.filterMap componentName?)

variable {m : Type → Type} [Monad m] [FileAccess m]

/-- The texts of files below a directory. -/
def readFiles (root : Path) : List (List Text) → m (List (List Text × Text))
  | [] => return []
  | file :: files => do
      let text ← readText (Path.join root (Text.join ['/'] file))
      let others ← readFiles root files
      match text with
      | .ok markup => return (file, markup) :: others
      | .error _ => return others

/-- The markup in a components directory.  The empty path means the current directory here. -/
def readMarkups [FileSurvey m] (root : Path) : m Markups := do
  let found ← survey (if root.isEmpty then ['.'] else root)
  return ⟨root, ← readFiles root (found.files.filter holdsMarkup)⟩

/-- The catalog of the components in a directory, all of which must be readable. -/
def scanComponents [FileSurvey m] (root : Path) : m (Except Fault Names) := do
  if ← isDirectory root then
    let found ← survey root
    match found.gap with
    | none => return .ok (catalogOf found.files)
    | some (path, error) => return .error (.unreadableComponents root path error)
  else return .error (.noComponentsDirectory root)

end MailTemplate
