/-
Module: MailTemplate.Command.Parse
Purpose: The commands of the command line and how they are called.
Main exports: Command, parseCommand, usage
-/
import MailTemplate.Command.Arguments
import MailTemplate.Files.Path

/-!
The first argument names the command.  What follows it is read by the rules of that command; a missing
operand or a missing option that the command needs is a misuse like any other.
-/

namespace MailTemplate

/-- A command with its arguments.  `config` is the path of a configuration file, the usual one if none is
given, and `output` is where the result goes instead of standard output. -/
inductive Command where
  | render (template : Path) (config : Option Path) (data : List (Text × Text)) (output : Option Path)
  | validate (template : Path) (config : Option Path) (format : Text)
  | convert (template : Path) (engine : Text) (config : Option Path) (output : Option Path)
  | engineList (config : Option Path)
  | variableList (config : Option Path) (customOnly : Bool)
  | version
deriving Repr, Inhabited, DecidableEq

namespace Command

/-- An option that may be given once and takes any value. -/
def plainOption (name : String) : OptionRule :=
  ⟨name.toList, false, fun _ => true⟩

/-- The option for the configuration file. -/
def configOption : OptionRule := plainOption "config"

/-- The option for the file that the result goes to. -/
def outputOption : OptionRule :=
  ⟨"output".toList, false, fun value => !value.isEmpty⟩

/-- The option for custom data. -/
def dataOption : OptionRule :=
  ⟨"data".toList, true, fun value => (parseKeyValue value).toBool⟩

/-- The value of an option that a command needs. -/
def needed : Option Text → Except Stop Text
  | some t => .ok t
  | none => .error .misuse

/-- The custom data among arguments. -/
def dataOf (arguments : Arguments) : List (Text × Text) :=
  (arguments.valuesOf "data").filterMap fun value => (parseKeyValue value).toOption

/-- Reads the arguments of the rendering command. -/
def parseRender (given : List Text) : Except Stop Command := do
  let arguments ← readArguments ⟨[configOption, dataOption, outputOption], [], 1⟩ given
  let template ← needed arguments.operands.head?
  return .render template (arguments.value? "config") (dataOf arguments) (arguments.value? "output")

/-- Reads the arguments of the validating command. -/
def parseValidate (given : List Text) : Except Stop Command := do
  let arguments ← readArguments ⟨[configOption, plainOption "format"], [], 1⟩ given
  let template ← needed arguments.operands.head?
  return .validate template (arguments.value? "config") ((arguments.value? "format").getD "pretty".toList)

/-- Reads the arguments of the converting command. -/
def parseConvert (given : List Text) : Except Stop Command := do
  let arguments ← readArguments ⟨[configOption, plainOption "engine", outputOption], [], 1⟩ given
  let template ← needed arguments.operands.head?
  let engine ← needed (arguments.value? "engine")
  return .convert template engine (arguments.value? "config") (arguments.value? "output")

/-- Reads the arguments of the command that lists engines. -/
def parseEngines (given : List Text) : Except Stop Command := do
  let arguments ← readArguments ⟨[configOption], [], 0⟩ given
  return .engineList (arguments.value? "config")

/-- Reads the arguments of the command that lists variables. -/
def parseVariables (given : List Text) : Except Stop Command := do
  let arguments ← readArguments ⟨[configOption], ["custom-only".toList], 0⟩ given
  return .variableList (arguments.value? "config") (arguments.flags.contains "custom-only".toList)

/-- Reads the arguments of the command that shows the version. -/
def parseVersion (given : List Text) : Except Stop Command := do
  let _ ← readArguments ⟨[], [], 0⟩ given
  return .version

/-- The commands by their names. -/
def parsers : List (Text × (List Text → Except Stop Command)) :=
  [("render".toList, parseRender), ("validate".toList, parseValidate), ("convert".toList, parseConvert),
   ("engines".toList, parseEngines), ("variables".toList, parseVariables), ("version".toList, parseVersion)]

/-- Why asking for help in words does not run a command. -/
def helpOn : List Text → Stop
  | [] => .help
  | [name] => if (parsers.lookup name).isSome || name == "help".toList then .help else .misuse
  | _ => .misuse

end Command

/-- Reads a command. -/
def parseCommand : List Text → Except Stop Command
  | [] => .error .misuse
  | name :: given =>
      match Command.parsers.lookup name with
      | some parser => parser given
      | none =>
          if name == "help".toList then .error (Command.helpOn given)
          else if name == "--help".toList || Text.startsWith "-h".toList name then .error .help
          else .error .misuse

/-- What is said about how commands are called. -/
def usage : Text :=
  "Usage: email-preview <COMMAND>\n\nCommands:\n  render     Render a template with sample data\n  validate   Check a template for problems\n  convert    Convert a template to another engine's syntax\n  engines    List available conversion engines\n  variables  List recognized template variables\n  version    Show the version\n".toList

end MailTemplate
