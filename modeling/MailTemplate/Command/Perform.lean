/-
Module: MailTemplate.Command.Perform
Purpose: What commands do.
Main exports: Outcome, renderFile, convertFile, validateFile, Command.perform
-/
import MailTemplate.Command.Parse
import MailTemplate.Report.Listing
import MailTemplate.Preview

/-!
A command reads the configuration first, then what else it needs, and writes last.  So a command that fails
on the way has written nothing.
-/

namespace MailTemplate

/-- How a run of the program ends: its exit code and what it writes to the standard streams. -/
structure Outcome where
  code : Nat
  out : Text
  err : Text
deriving Repr, Inhabited, DecidableEq

namespace Outcome

/-- The outcome of a run that only writes to standard output. -/
def printed (out : Text) (code : Nat) : Outcome := ⟨code, out, []⟩

/-- The outcome of a run that fails. -/
def failed (failure : Failure) : Outcome :=
  ⟨failure.exitCode, [], "Error: ".toList ++ failure.message ++ ['\n']⟩

end Outcome

section Commands

variable {σ : Type} [Chance σ] {m : Type → Type} [Monad m] [FileAccess m] [FileSurvey m]
  [Toml.Reader]

/-- Puts a result where it goes; what of it goes to standard output is returned. -/
def deliver (output : Option Path) (t : Text) : ExceptT Failure m Text := do
  match output with
  | none => return t ++ ['\n']
  | some path =>
      ExceptT.mk (saveText path t)
      return []

/-- The preview of a configuration file, and the text of a template in it. -/
def openTemplate (config : Option Path) (data : List (Text × Text)) (template : Path) :
    ExceptT Failure m (Preview σ × Text) := do
  let preview ← ExceptT.mk (Preview.load config data)
  let path ← ExceptT.lift (preview.locateTemplate template)
  return (preview, ← ExceptT.mk (templateText path))

/-- Renders the template in a file. -/
def renderFile (supply : σ) (template : Path) (config : Option Path) (data : List (Text × Text))
    (output : Option Path) : ExceptT Failure m Text := do
  let (preview, t) ← openTemplate (σ := σ) config data template
  let (html, _) ← ExceptT.lift (preview.render t supply)
  deliver output html

/-- Converts the template in a file. -/
def convertFile (supply : σ) (template : Path) (engine : Text) (config output : Option Path) :
    ExceptT Failure m Text := do
  let (preview, t) ← openTemplate (σ := σ) config [] template
  match ← ExceptT.lift (preview.convert t engine supply) with
  | .ok converted => deliver output converted
  | .error fault => throw (.engine fault)

/-- Validates the template in a file: the report, and whether there are errors. -/
def validateFile (painter : Painter) (template : Path) (config : Option Path) (format : Text) :
    ExceptT Failure m (Text × Verdict) := do
  let (preview, t) ← openTemplate (σ := σ) config [] template
  let issues := validate (← ExceptT.lift preview.scope) t
  match reportIn painter format template issues with
  | .ok report => return (report ++ ['\n'], verdict issues)
  | .error failure => throw failure

/-- Runs a command to its outcome or its failure. -/
def Command.perform (painter : Painter) (supply : σ) : Command → ExceptT Failure m Outcome
  | .render template config data output => do
      return Outcome.printed (← renderFile supply template config data output) 0
  | .validate template config format => do
      let (report, verdict) ← validateFile (σ := σ) painter template config format
      return Outcome.printed report (if verdict == .error then 1 else 0)
  | .convert template engine config output => do
      return Outcome.printed (← convertFile supply template engine config output) 0
  | .engineList config => do
      let preview : Preview σ ← ExceptT.mk (Preview.load config [])
      return Outcome.printed (listEngines painter (← ExceptT.lift preview.engines).available) 0
  | .variableList config customOnly => do
      let preview : Preview σ ← ExceptT.mk (Preview.load config [])
      return Outcome.printed (listVariables painter preview.resolver customOnly) 0
  | .version => return Outcome.printed "email-preview version 0.1.0\n".toList 0

end Commands

end MailTemplate
