/-
Module: MailTemplate.Fault
Purpose: What can go wrong outside rendering, and how it is said.
Main exports: Fault, Fault.message
-/
import MailTemplate.Data.Value
import MailTemplate.Engine.Definition
import MailTemplate.Files.Access

/-!
Rendering never fails.  What can fail is reading files, finding an engine, and producing a value when it is
asked for by itself.
-/

namespace MailTemplate

/-- Something that went wrong. -/
inductive Fault where
  /-- A file cannot be read. -/
  | file (error : FileError)
  /-- No value can be generated for a variable. -/
  | generation (failure : GenerationFailure)
  /-- No engine has the extension. -/
  | unknownEngine (extension : Text)
  /-- A file is no engine definition. -/
  | engineDefinition (path : Path) (flaw : EngineFlaw)
  /-- A path that should hold components is no directory. -/
  | noComponentsDirectory (path : Path)
  /-- A directory below the components directory cannot be read. -/
  | unreadableComponents (root path : Path) (error : FileError)
deriving Repr, Inhabited, DecidableEq

/-- What is said about a components directory that has no catalog. -/
def catalogComplaint (root : Path) (reason : Text) : Text :=
  "Cannot scan components directory ".toList ++ Path.shown root ++ [':', ' '] ++ reason

/-- What is said about a fault. -/
def Fault.message : Fault → Text
  | .file error => "IO error: ".toList ++ error.message
  | .generation failure => failure.report
  | .unknownEngine extension => "Engine not found: ".toList ++ extension
  | .engineDefinition path flaw =>
      "Invalid engine definition in ".toList ++ Path.shown path ++ [':', ' '] ++ flaw.message
  | .noComponentsDirectory path => catalogComplaint path "not a directory".toList
  | .unreadableComponents root path error =>
      catalogComplaint root ("IO error for operation on ".toList ++ path ++ [':', ' '] ++ error.message)

end MailTemplate
