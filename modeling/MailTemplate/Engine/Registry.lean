/-
Module: MailTemplate.Engine.Registry
Purpose: The dialects that a text can be converted for, by their extensions.
Main exports: Registry, Registry.builtin, Registry.register, Registry.available, Registry.convert, loadEngine,
  Registry.loadDirectory
-/
import MailTemplate.Engine.Conversion
import MailTemplate.Fault
import MailTemplate.Assembly

/-!
A dialect is registered under its extension, and the one registered last under an extension is the one that
counts.  A directory of definitions is read file by file in ascending order of the names; files that
are no definitions are passed over.
-/

namespace MailTemplate

/-- Dialects by extension, and the largest number of placeholders that one directive may become. -/
structure Registry where
  engines : Table Dialect
  iterations : Nat := ({} : Limits).loopIterations

namespace Registry

/-- The registry without engines. -/
def empty : Registry := { engines := Table.empty }

/-- Registers a dialect under its extension. -/
def register (registry : Registry) (dialect : Dialect) : Registry :=
  { registry with engines := registry.engines.insert dialect.extension dialect }

/-- The registry of the engines that are always there. -/
def builtin : Registry :=
  (Engine.builtin.map Engine.dialect).foldl register empty

/-- The dialect under an extension. -/
def get? (registry : Registry) (extension : Text) : Option Dialect :=
  registry.engines.get? extension

/-- The extensions and names of all dialects, in ascending order of the extensions. -/
def available (registry : Registry) : List (Text × Text) :=
  registry.engines.entries.map fun entry => (entry.1, entry.2.name)

/-- A text with its keyed directives converted for the dialect under an extension. -/
def convert (registry : Registry) (content extension : Text) : Except Fault Text :=
  match registry.get? extension with
  | some dialect => .ok (convertText dialect registry.iterations content)
  | none => .error (.unknownEngine extension)

end Registry

variable {m : Type → Type} [Monad m] [FileAccess m] [Toml.Reader]

/-- The engine that a file defines. -/
def loadEngine (path : Path) : m (Except Fault Engine) := do
  match ← readText path with
  | .error e => return .error (.file e)
  | .ok document =>
      match Engine.ofDocument document with
      | .error flaw => return .error (.engineDefinition path flaw)
      | .ok engine => return .ok engine

/-- The extension of files with engine definitions. -/
def definitionExtension : Text := "toml".toList

/-- The names of the files in a directory that may define engines, in ascending order. -/
def definitionNames (files : List Text) : List Text :=
  (Names.ofList files).keys.filter fun name => fileExtension? name == some definitionExtension

/-- Registers the engines that files define, and counts them. -/
def Registry.loadFiles (registry : Registry) : List Path → m (Registry × Nat)
  | [] => return (registry, 0)
  | path :: paths => do
      match ← loadEngine path with
      | .error _ => loadFiles registry paths
      | .ok engine =>
          let (registry, count) ← loadFiles (registry.register engine) paths
          return (registry, count + 1)

/-- Registers the engines that the files in a directory define, and counts them. -/
def Registry.loadDirectory (registry : Registry) (directory : Path) : m (Registry × Nat) := do
  let names := definitionNames (← filesIn directory)
  registry.loadFiles (names.map (Path.join directory))

end MailTemplate
