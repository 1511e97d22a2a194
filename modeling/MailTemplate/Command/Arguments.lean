/-
Module: MailTemplate.Command.Arguments
Purpose: Reading the arguments of a command: options, flags and operands.
Main exports: ArgumentRules, Arguments, Stop, readArguments, parseKeyValue
-/
import MailTemplate.Text.Basic

/-!
An option is written with two dashes and takes a value, behind an equals sign or as the next argument.  The
next argument is no value if it begins with a dash, unless it is a dash alone.  A flag takes no value.
Options and flags may stand before and after operands; two dashes alone make operands of all that follows.

Reading stops at the first argument that breaks a rule, and where help is asked for.
-/

namespace MailTemplate

/-- An option of a command. -/
structure OptionRule where
  name : Text
  /-- Whether the option may be given more than once. -/
  repeatable : Bool
  /-- Whether a text can be its value. -/
  accepts : Text → Bool

/-- What a command takes. -/
structure ArgumentRules where
  options : List OptionRule
  flags : List Text
  /-- The largest number of operands. -/
  operands : Nat

/-- What a command was given, in order. -/
structure Arguments where
  values : List (Text × Text)
  flags : List Text
  operands : List Text
deriving Repr, Inhabited, DecidableEq

/-- Why reading arguments stops early. -/
inductive Stop where
  /-- Help is asked for. -/
  | help
  /-- A rule is broken. -/
  | misuse
deriving Repr, Inhabited, DecidableEq

namespace Arguments

/-- No arguments. -/
def empty : Arguments := ⟨[], [], []⟩

/-- The values given for an option. -/
def valuesOf (arguments : Arguments) (name : String) : List Text :=
  (arguments.values.filter fun value => value.1 == name.toList).map (·.2)

/-- The value given for an option. -/
def value? (arguments : Arguments) (name : String) : Option Text :=
  (arguments.valuesOf name).head?

end Arguments

namespace ArgumentRules

/-- Adds an operand. -/
def addOperand (rules : ArgumentRules) (arguments : Arguments) (operand : Text) : Except Stop Arguments :=
  if operand.isEmpty || rules.operands ≤ arguments.operands.length then .error .misuse
  else .ok { arguments with operands := arguments.operands ++ [operand] }

/-- Adds a value of an option. -/
def addValue (rule : OptionRule) (arguments : Arguments) (value : Text) : Except Stop Arguments :=
  if !rule.accepts value then .error .misuse
  else if !rule.repeatable && arguments.values.any fun given => given.1 == rule.name then .error .misuse
  else .ok { arguments with values := arguments.values ++ [(rule.name, value)] }

/-- Adds a flag. -/
def addFlag (arguments : Arguments) (flag : Text) : Except Stop Arguments :=
  if arguments.flags.contains flag then .error .misuse
  else .ok { arguments with flags := arguments.flags ++ [flag] }

/-- Whether an argument can be the value of the option in front of it. -/
def isValue (argument : Text) : Bool :=
  argument.head? != some '-' || argument == ['-']

/-- What an argument is by its spelling. -/
inductive Word where
  /-- An option, perhaps with its value. -/
  | option (rule : OptionRule) (value : Option Text)
  | flag (name : Text)
  | operand
  /-- What makes operands of all that follows. -/
  | rest
  | stop (reason : Stop)

/-- What an argument behind two dashes is. -/
def classifyLong (rules : ArgumentRules) (t : Text) : Word :=
  match Text.splitFirst '=' t with
  | some (name, value) =>
      match rules.options.find? fun rule => rule.name == name with
      | some rule => .option rule (some value)
      | none => .stop .misuse
  | none =>
      match rules.options.find? fun rule => rule.name == t with
      | some rule => .option rule none
      | none =>
          if rules.flags.contains t then .flag t
          else if t == "help".toList then .stop .help
          else .stop .misuse

/-- What an argument is. -/
def classify (rules : ArgumentRules) (argument : Text) : Word :=
  match argument with
  | ['-', '-'] => .rest
  | '-' :: '-' :: t => rules.classifyLong t
  | '-' :: 'h' :: _ => .stop .help
  | '-' :: _ :: _ => .stop .misuse
  | _ => .operand

/-- Reads arguments, adding to those that are read already; `pending` is an option that still needs its
value. -/
def read (rules : ArgumentRules) :
    Option OptionRule → Arguments → List Text → Except Stop Arguments
  | none, arguments, [] => .ok arguments
  | some _, _, [] => .error .misuse
  | some rule, arguments, value :: given =>
      if isValue value then do read rules none (← addValue rule arguments value) given else .error .misuse
  | none, arguments, argument :: given =>
      match rules.classify argument with
      | .option rule (some value) => do read rules none (← addValue rule arguments value) given
      | .option rule none => read rules (some rule) arguments given
      | .flag name => do read rules none (← addFlag arguments name) given
      | .operand => do read rules none (← rules.addOperand arguments argument) given
      | .rest => given.foldlM rules.addOperand arguments
      | .stop reason => .error reason

end ArgumentRules

/-- Reads the arguments of a command. -/
def readArguments (rules : ArgumentRules) (given : List Text) : Except Stop Arguments :=
  rules.read none Arguments.empty given

/-- A key and a value with an equals sign between them, or what is said where there is none. -/
def parseKeyValue (t : Text) : Except Text (Text × Text) :=
  match Text.splitFirst '=' t with
  | some pair => .ok pair
  | none => .error ("invalid KEY=VALUE: no `=` found in `".toList ++ t ++ "`".toList)

end MailTemplate
