/-
Module: MailTemplate.Engine.Basic
Purpose: Target engines: how another template language spells a variable.
Main exports: Dialect, Engine, Engine.placeholder, Engine.dialect, Engine.builtin
-/
import MailTemplate.Text.Numeral
import MailTemplate.Text.Pattern

/-!
Conversion knows a template language as a *dialect*: a file extension and a spelling of variables, which may
be any function of the variable's name and the number of the iteration, counted from one.

An *engine* is a dialect given by patterns, in which `{key}` stands for the variable's name.  For a variable
in a loop there may be a second pattern, in which `{index}` stands for the number of the iteration; without
it the first pattern is used, with the number appended to the name.
-/

namespace MailTemplate

/-- A target template language. -/
structure Dialect where
  name : Text
  extension : Text
  /-- How a variable is spelled, in a given iteration of a loop or outside loops. -/
  placeholder : Text → Option Nat → Text

/-- A target template language, by the patterns that spell its variables. -/
structure Engine where
  name : Text
  extension : Text
  variablePattern : Text
  indexedPattern : Option Text
deriving Repr, Inhabited, DecidableEq

namespace Engine

/-- The mark for the variable's name. -/
def keyMark : Text := ['{', 'k', 'e', 'y', '}']

/-- The mark for the number of the iteration. -/
def indexMark : Text := ['{', 'i', 'n', 'd', 'e', 'x', '}']

/-- Occurrences of the mark for the name. -/
def keyMarks : Pattern Unit :=
  Shape.pattern [.word keyMark] (fun _ => ()) rfl

/-- Occurrences of the mark for the number. -/
def indexMarks : Pattern Unit :=
  Shape.pattern [.word indexMark] (fun _ => ()) rfl

/-- How an engine spells a variable, in a given iteration of a loop or outside loops.  In an indexed
pattern the number is put in first. -/
def placeholder (engine : Engine) (key : Text) : Option Nat → Text
  | none => keyMarks.replace (fun _ => key) engine.variablePattern
  | some index =>
      match engine.indexedPattern with
      | some pattern =>
          keyMarks.replace (fun _ => key) (indexMarks.replace (fun _ => Text.ofNat index) pattern)
      | none => keyMarks.replace (fun _ => key ++ '_' :: Text.ofNat index) engine.variablePattern

/-- The dialect that an engine stands for. -/
def dialect (engine : Engine) : Dialect where
  name := engine.name
  extension := engine.extension
  placeholder := engine.placeholder

instance : Coe Engine Dialect := ⟨dialect⟩

/-- The engine for Liquid templates. -/
def liquid : Engine where
  name := "Liquid".toList
  extension := "liquid".toList
  variablePattern := ['{', '{', ' '] ++ keyMark ++ [' ', '}', '}']
  indexedPattern := some (['{', '{', ' '] ++ keyMark ++ '_' :: indexMark ++ [' ', '}', '}'])

/-- The engine for Handlebars templates. -/
def handlebars : Engine where
  name := "Handlebars".toList
  extension := "hbs".toList
  variablePattern := ['{', '{'] ++ keyMark ++ ['}', '}']
  indexedPattern := some (['{', '{'] ++ keyMark ++ '_' :: indexMark ++ ['}', '}'])

/-- The engines that are always there. -/
def builtin : List Engine := [liquid, handlebars]

end Engine

end MailTemplate
