/-
Module: MailTemplate.Preview
Purpose: A preview: a configuration with its variables, and what can be done with a template in it.
Main exports: Failure, Failure.message, Failure.exitCode, Preview, Preview.ofConfiguration, Preview.load,
  Preview.render, Preview.convert, Preview.scope, Preview.engines, Preview.locateTemplate, templateText, saveText
-/
import MailTemplate.Component.Directory
import MailTemplate.Configuration
import MailTemplate.Data.Sample
import MailTemplate.Engine.Registry
import MailTemplate.Report.Issues
import MailTemplate.Style.Hoist
import MailTemplate.Validation.Check

/-!
A preview is fixed once the configuration has been read.  Components and engine definitions are read anew
for each thing that is done, so that changes to the files show.

Custom data given by hand shadows the custom data of the configuration, and both shadow the sample data.
-/

namespace MailTemplate

/-- Why a command fails. -/
inductive Failure where
  | configuration (fault : ConfigurationFault)
  /-- No report format has the name. -/
  | unknownFormat (name : Text)
  /-- A template cannot be read or a result cannot be written. -/
  | file (error : FileError)
  | engine (fault : Fault)
deriving Repr, Inhabited, DecidableEq

namespace Failure

/-- What is said about a failure. -/
def message : Failure → Text
  | .configuration fault => "Configuration error: ".toList ++ fault.message
  | .unknownFormat name =>
      "Invalid arguments: Invalid format: '".toList ++ name ++ "'. Use 'json' or 'pretty'.".toList
  | .file error => "Failed to load file: ".toList ++ error.message
  | .engine fault => fault.message

/-- The exit code of a failed command: two if it was called wrongly, one otherwise. -/
def exitCode : Failure → Nat
  | .configuration _ => 2
  | .unknownFormat _ => 2
  | .file _ => 1
  | .engine _ => 1

end Failure

/-- A configuration with the variables that templates can name. -/
structure Preview (σ : Type) where
  configuration : Configuration
  resolver : Resolver σ

/-- The report on issues in a format of a name. -/
def reportIn (painter : Painter) (format name : Text) (issues : List Issue) : Except Failure Text :=
  match ReportFormat.parse? format with
  | some format => .ok (reportIssues painter format name issues)
  | none => .error (.unknownFormat format)

namespace Preview

variable {σ : Type} [Chance σ]

/-- The preview of a configuration, with custom data given by hand. -/
def ofConfiguration (configuration : Configuration) (overrides : List (Text × Text)) : Preview σ :=
  let custom := overrides.map fun (key, value) => (key, VariableValue.literal value)
  ⟨configuration, ⟨sampleData, configuration.customData.insertAll custom⟩⟩

variable {m : Type → Type} [Monad m] [FileAccess m]

/-- The preview of a configuration file, or of the usual one. -/
def load [Toml.Reader] (config : Option Path) (overrides : List (Text × Text)) : m (Except Failure (Preview σ)) := do
  match ← loadConfiguration (← configurationPath config) with
  | .error fault => return .error (.configuration fault)
  | .ok configuration => return .ok (ofConfiguration configuration overrides)

/-- The assembly over the components on disk. -/
def assembly [FileSurvey m] (preview : Preview σ) : m (Assembly σ) := do
  let markups ← readMarkups preview.configuration.componentsDirectory
  return {
    loader := markups.loader
    resolver := preview.resolver
    limits := preview.configuration.limits
    inliner := if preview.configuration.inlineStyles then hoistStyles else id }

/-- A template rendered. -/
def render [FileSurvey m] (preview : Preview σ) (template : Text) (supply : σ) : m (Text × σ) := do
  return (← preview.assembly).process .render template supply

/-- The engines that are always there and those of the engines directory. -/
def engines [Toml.Reader] (preview : Preview σ) : m Registry := do
  let registry := { Registry.builtin with iterations := preview.configuration.limits.loopIterations }
  match preview.configuration.enginesDirectory? with
  | none => return registry
  | some directory => return (← registry.loadDirectory directory).1

/-- A template prepared and converted for the dialect under an extension.  The dialect is looked up before any
component is read. -/
def convert [FileSurvey m] [Toml.Reader] (preview : Preview σ) (template extension : Text) (supply : σ) :
    m (Except Fault Text) := do
  let engines ← preview.engines
  match engines.get? extension with
  | none => return .error (.unknownEngine extension)
  | some _ =>
      let (prepared, _) := (← preview.assembly).process .conversion template supply
      return engines.convert prepared extension

/-- What templates may name: all variables, and the components on disk.  Without a components directory
there are no components. -/
def scope [FileSurvey m] (preview : Preview σ) : m Scope := do
  match ← scanComponents preview.configuration.componentsDirectory with
  | .ok components => return ⟨preview.resolver.names, components⟩
  | .error _ => return ⟨preview.resolver.names, Table.empty⟩

/-- Where a template is: at its path if something is there, else in the mails directory if it is a file
there. -/
def locateTemplate (preview : Preview σ) (template : Path) : m Path := do
  if Path.isAbsolute template then return template
  match ← kind? template with
  | some _ => return template
  | none =>
      match preview.configuration.mailsDirectory? with
      | none => return template
      | some directory =>
          let candidate := Path.join directory template
          match ← kind? candidate with
          | some .file => return candidate
          | _ => return template

end Preview

section Files

variable {m : Type → Type} [Monad m] [FileAccess m]

/-- The text of a template. -/
def templateText (path : Path) : m (Except Failure Text) := do
  match ← readText path with
  | .ok t => return .ok t
  | .error e => return .error (.file e)

/-- Writes a result to a file. -/
def saveText (path : Path) (t : Text) : m (Except Failure Unit) := do
  match ← writeThrough path t with
  | .ok () => return .ok ()
  | .error e => return .error (.file e)

end Files

end MailTemplate
