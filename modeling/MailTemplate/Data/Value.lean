/-
Module: MailTemplate.Data.Value
Purpose: The values a variable can have: fixed text, a choice, or a generator with a state.
Main exports: Chance, Generator, VariableValue, VariableValue.produce, GenerationFailure
-/
import MailTemplate.Text.Basic

/-!
A value is produced anew each time its variable is printed.  What it depends on besides itself, the source
of chance and the counters of generators, is a state that is passed along explicitly: producing a value
takes a state and gives the next.  The kind of state is a parameter throughout, so nothing here can depend
on how chance is made.
-/

namespace MailTemplate

/-- A state that numbers can be drawn from. -/
class Chance (σ : Type) where
  /-- A number from zero to the bound, each as likely as any other. -/
  upTo : (bound : Nat) → σ → Fin (bound + 1) × σ

/-- A value made anew on every call, or the message that says why none could be made. -/
abbrev Generator (σ : Type) := σ → Except Text Text × σ

/-- A generator that always gives the same text. -/
def Generator.constant {σ : Type} (t : Text) : Generator σ :=
  fun s => (.ok t, s)

/-- A generator that never gives a text. -/
def Generator.failing {σ : Type} (message : Text) : Generator σ :=
  fun s => (.error message, s)

/-- The value of a variable. -/
inductive VariableValue (σ : Type) where
  /-- The same text each time. -/
  | literal (t : Text)
  /-- One of the texts, each as likely as any other. -/
  | oneOf (choices : List Text)
  /-- Whatever the generator makes. -/
  | generated (generator : Generator σ)

/-- Draws one of a list of texts.  From an empty list the empty text is drawn, and no chance is used. -/
def Chance.pick {σ : Type} [Chance σ] (choices : List Text) (s : σ) : Text × σ :=
  match choices with
  | [] => ([], s)
  | first :: others =>
      let (index, s) := Chance.upTo others.length s
      ((first :: others).get (index.cast (by simp)), s)

/-- The generator of a variable could make no value. -/
structure GenerationFailure where
  key : Text
  message : Text
deriving Repr, Inhabited, DecidableEq

/-- What is said about a failed generator. -/
def GenerationFailure.report (failure : GenerationFailure) : Text :=
  "Generator for '".toList ++ failure.key ++ "' failed: ".toList ++ failure.message

namespace VariableValue

/-- The text that the variable `key` prints this time. -/
def produce {σ : Type} [Chance σ] (value : VariableValue σ) (key : Text) (s : σ) :
    Except GenerationFailure Text × σ :=
  match value with
  | .literal t => (.ok t, s)
  | .oneOf choices =>
      let (t, s) := Chance.pick choices s
      (.ok t, s)
  | .generated generator =>
      match generator s with
      | (.ok t, s) => (.ok t, s)
      | (.error message, s) => (.error ⟨key, message⟩, s)

end VariableValue

/-- A drawn text is among the choices. -/
theorem Chance.pick_mem {σ : Type} [Chance σ] (first : Text) (others : List Text) (s : σ) :
    (Chance.pick (first :: others) s).1 ∈ first :: others :=
  List.get_mem ..

end MailTemplate
