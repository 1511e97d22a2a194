/-
Module: MailTemplate.Command.Run
Purpose: Running the program with the libraries that it is made with.
Main exports: Command.run, runArguments
-/
import MailTemplate.Command.Perform
import MailTemplate.Files.Walk
import MailTemplate.Report.Terminal
import MailTemplate.Toml.Document

/-!
What commands do depends on libraries: one that reads TOML, one that walks directories, one that paints
texts.  Those of the program are here in place.
-/

namespace MailTemplate

variable {σ : Type} [Chance σ] {m : Type → Type} [Monad m] [FileAccess m] [FileSurvey m]

/-- Runs a command to its outcome. -/
def Command.run (painter : Painter) (supply : σ) (command : Command) : m Outcome := do
  match ← (command.perform painter supply).run with
  | .ok outcome => return outcome
  | .error failure => return Outcome.failed failure

/-- Runs the program with arguments. -/
def runArguments (painter : Painter) (supply : σ) (arguments : List Text) : m Outcome := do
  match parseCommand arguments with
  | .ok command => command.run painter supply
  | .error .help => return Outcome.printed usage 0
  | .error .misuse => return ⟨2, [], usage⟩

end MailTemplate
