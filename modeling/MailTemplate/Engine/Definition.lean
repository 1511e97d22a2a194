/-
Module: MailTemplate.Engine.Definition
Purpose: Engine definitions: what they must hold, and reading them from documents.
Main exports: EngineFlaw, EngineFlaw.message, Engine.flaw?, Engine.ofDocument
-/
import MailTemplate.Engine.Basic
import MailTemplate.Text.Blank
import MailTemplate.Toml.Decode

/-!
An engine definition is a document with a name, an extension and a variable pattern, and perhaps a pattern
for variables in loops.  Name and extension may not be blank, and every pattern must have a place for the
variable's name.
-/

namespace MailTemplate

/-- What is wrong with an engine definition. -/
inductive EngineFlaw where
  /-- It is no document with the fields of an engine. -/
  | malformed
  | blankName
  | blankExtension
  | patternWithoutKey
  | indexedPatternWithoutKey
deriving Repr, Inhabited, DecidableEq

/-- What is said about a flaw. -/
def EngineFlaw.message : EngineFlaw → Text
  | .malformed => Toml.details
  | .blankName => "name must not be empty".toList
  | .blankExtension => "extension must not be empty".toList
  | .patternWithoutKey => "variable pattern must contain ".toList ++ Engine.keyMark
  | .indexedPatternWithoutKey => "indexed_variable pattern must contain ".toList ++ Engine.keyMark

namespace Engine

/-- The first flaw of an engine, if it has one. -/
def flaw? (engine : Engine) : Option EngineFlaw :=
  if (Text.trim engine.name).isEmpty then some .blankName
  else if (Text.trim engine.extension).isEmpty then some .blankExtension
  else if !keyMarks.occurs engine.variablePattern then some .patternWithoutKey
  else if engine.indexedPattern.any fun pattern => !keyMarks.occurs pattern then
    some .indexedPatternWithoutKey
  else none

/-- The engine that the fields of a document describe, whatever its flaws. -/
def ofFields? (fields : Toml.Fields) : Option Engine := do
  let name ← Toml.required? Toml.text? (fields.lookup "name".toList)
  let extension ← Toml.required? Toml.text? (fields.lookup "extension".toList)
  let variablePattern ← Toml.required? Toml.text? (fields.lookup "variable".toList)
  let indexedPattern ← Toml.optional? Toml.text? (fields.lookup "indexed_variable".toList)
  some { name, extension, variablePattern, indexedPattern }

/-- The engine that a document describes. -/
def ofDocument [Toml.Reader] (document : Text) : Except EngineFlaw Engine :=
  match (Toml.read? document).bind ofFields? with
  | none => .error .malformed
  | some engine =>
      match engine.flaw? with
      | some flaw => .error flaw
      | none => .ok engine

end Engine

end MailTemplate
