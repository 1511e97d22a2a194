/-
Module: MailTemplate.Configuration
Purpose: The configuration of a preview: where files are, custom data, limits and styling.
Main exports: Locations, CustomEntry, Configuration, Configuration.ofComponents, Configuration.ofDocument,
  Configuration.componentsDirectory, Configuration.customData, loadConfiguration
-/
import MailTemplate.Fault
import MailTemplate.Data.Resolver
import MailTemplate.Assembly

/-!
A configuration is a document of which only the location of the components must be given.  Relative paths
in it are seen from the directory that the document lies in.
-/

namespace MailTemplate

/-- Where components, engine definitions and mails are, as the configuration says it. -/
structure Locations where
  components : Path
  engines : Option Path
  mails : Option Path
deriving Repr, Inhabited, DecidableEq

/-- A value of the custom data: a text, or texts to choose from. -/
inductive CustomEntry where
  | text (t : Text)
  | choices (ts : List Text)
deriving Repr, Inhabited, DecidableEq

/-- The value of a variable that an entry gives. -/
def CustomEntry.value {σ : Type} : CustomEntry → VariableValue σ
  | .text t => .literal t
  | .choices ts => .oneOf ts

/-- The configuration of a preview. -/
structure Configuration where
  locations : Locations
  data : Table CustomEntry
  limits : Limits
  /-- Whether styles are moved onto the elements. -/
  inlineStyles : Bool
  /-- The directory that relative paths are seen from. -/
  base : Path
deriving Repr, DecidableEq

/-- Why a document is no configuration. -/
inductive ConfigurationFlaw where
  | malformed
  | blankComponents
deriving Repr, Inhabited, DecidableEq

/-- Why there is no configuration. -/
inductive ConfigurationFault where
  | notFound (path : Path)
  | unreadable (error : FileError)
  | flawed (flaw : ConfigurationFlaw)
deriving Repr, Inhabited, DecidableEq

/-- What is said when there is no configuration. -/
def ConfigurationFault.message : ConfigurationFault → Text
  | .notFound path => "Configuration file not found: ".toList ++ Path.shown path
  | .unreadable error => "Failed to read configuration file: ".toList ++ error.message
  | .flawed .malformed => "Failed to parse configuration file: ".toList ++ Toml.details
  | .flawed .blankComponents => "paths.components must name the components directory".toList

namespace Configuration

/-! ### Reading -/

/-- The locations in a document. -/
def locations? (datum : Toml.Datum) : Option Locations :=
  match Toml.record? (["components", "engines", "emails"].map String.toList) datum with
  | some [components, engines, mails] => do
      let components ← Toml.required? Toml.text? components
      let engines ← Toml.optional? Toml.text? engines
      let mails ← Toml.optional? Toml.text? mails
      some { components, engines, mails }
  | _ => none

/-- An entry of the custom data in a document. -/
def customValue? (datum : Toml.Datum) : Option CustomEntry :=
  match Toml.text? datum with
  | some t => some (.text t)
  | none => (Toml.texts? datum).map .choices

/-- The custom data in a document. -/
def data? (datum : Toml.Datum) : Option (Table CustomEntry) := do
  let fields ← Toml.fields? datum
  let entries ← fields.mapM fun (key, datum) => (customValue? datum).map fun entry => (key, entry)
  some (Table.ofList entries)

/-- The limits in a document. -/
def limits? (datum : Toml.Datum) : Option Limits :=
  let usual : Limits := {}
  match
    Toml.record? (["max_include_depth", "max_loop_iterations", "max_expansions"].map String.toList) datum
  with
  | some [depth, iterations, expansions] => do
      let includeDepth ← Toml.withDefault? usual.includeDepth Toml.count? depth
      let loopIterations ← Toml.withDefault? usual.loopIterations Toml.count? iterations
      let expansions ← Toml.withDefault? usual.expansions Toml.count? expansions
      some { includeDepth, loopIterations, expansions }
  | _ => none

/-- Whether styles are moved, in a document. -/
def inlineStyles? (datum : Toml.Datum) : Option Bool :=
  match Toml.record? ["inline".toList] datum with
  | some [inlined] => Toml.withDefault? true Toml.flag? inlined
  | _ => none

/-- The configuration that the fields of a document give, whatever its flaws. -/
def ofFields? (base : Path) (fields : Toml.Fields) : Option Configuration := do
  let locations ← Toml.required? locations? (fields.lookup "paths".toList)
  let data ← Toml.withDefault? Table.empty data? (fields.lookup "data".toList)
  let limits ← Toml.withDefault? {} limits? (fields.lookup "limits".toList)
  let inlineStyles ← Toml.withDefault? true inlineStyles? (fields.lookup "css".toList)
  some { locations, data, limits, inlineStyles, base }

/-- The configuration that a document gives. -/
def ofDocument [Toml.Reader] (base : Path) (document : Text) :
    Except ConfigurationFlaw Configuration :=
  match (Toml.read? document).bind (ofFields? base) with
  | none => .error .malformed
  | some configuration =>
      if (Text.trim configuration.locations.components).isEmpty then .error .blankComponents
      else .ok configuration

/-- The configuration that gives nothing but a components directory. -/
def ofComponents (components : Path) : Configuration :=
  { locations := ⟨components, none, none⟩
    data := Table.empty
    limits := {}
    inlineStyles := true
    base := [] }

/-! ### What it means -/

/-- The directory of the components. -/
def componentsDirectory (configuration : Configuration) : Path :=
  Path.join configuration.base configuration.locations.components

/-- The directory of the engine definitions. -/
def enginesDirectory? (configuration : Configuration) : Option Path :=
  configuration.locations.engines.map (Path.join configuration.base)

/-- The directory of the mails. -/
def mailsDirectory? (configuration : Configuration) : Option Path :=
  configuration.locations.mails.map (Path.join configuration.base)

/-- The custom data. -/
def customData {σ : Type} (configuration : Configuration) : DataTable σ :=
  Table.ofList (configuration.data.entries.map fun entry => (entry.1, entry.2.value))

end Configuration

variable {m : Type → Type} [Monad m] [FileAccess m]

/-- The configuration in a file. -/
def loadConfiguration [Toml.Reader] (path : Path) : m (Except ConfigurationFault Configuration) := do
  match ← kind? path with
  | none => return .error (.notFound path)
  | some _ =>
      match ← readText path with
      | .error e => return .error (.unreadable e)
      | .ok document =>
          match Configuration.ofDocument ((Path.parent? path).getD []) document with
          | .error flaw => return .error (.flawed flaw)
          | .ok configuration => return .ok configuration

/-- The name of the configuration file that is used when none is given. -/
def usualConfigurationName : Text := "email-preview.toml".toList

/-- The path of the configuration file. -/
def configurationPath : Option Path → m Path
  | some path => return path
  | none => do return Path.join (← currentDirectory) usualConfigurationName

end MailTemplate
