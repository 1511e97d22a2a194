/-
Module: MailTemplate.Report.Listing
Purpose: Listings of the engines and of the variables that are known.
Main exports: listEngines, listVariables
-/
import MailTemplate.Data.Resolver
import MailTemplate.Report.Paint
import MailTemplate.Text.Numeral

/-!
Engines are listed by extension with their names in a column behind.  The column is as wide as the longest
extension is in bytes, and each extension is filled up by counting its characters.  Variables are listed
with the layer they come from.
-/

namespace MailTemplate

namespace Listing

/-- The line for an engine, by its extension and its name. -/
def engineLine (painter : Painter) (width : Nat) (engine : Text × Text) : Text :=
  [' ', ' '] ++ painter.paintTo width [.brightCyan] engine.1 ++ [' ', ' '] ++ engine.2 ++ ['\n']

/-- The word for the layer that a variable comes from. -/
def layerWord (painter : Painter) : Layer → Text
  | .custom => painter.paint [.green] "custom".toList
  | .default => painter.paint [.dimmed] "default".toList

/-- The line for a variable. -/
def variableLine (painter : Painter) (listed : Text × Layer) : Text :=
  [' ', ' '] ++ listed.1 ++ [' ', '('] ++ layerWord painter listed.2 ++ [')', '\n']

end Listing

/-- A listing of engines, by their extensions and names. -/
def listEngines (painter : Painter) (engines : List (Text × Text)) : Text :=
  if engines.isEmpty then "No template engines available\n".toList
  else
    let width := (engines.map fun engine => Text.byteLength engine.1).foldl max 0
    painter.paint [.bold] "Available template engines:".toList ++
      '\n' :: engines.flatMap (Listing.engineLine painter width)

/-- The variables of a resolver with their layers, in ascending order; perhaps the custom ones only. -/
def Resolver.listed {σ : Type} (resolver : Resolver σ) (customOnly : Bool) : List (Text × Layer) :=
  resolver.keys.filterMap fun key =>
    match resolver.layer? key with
    | some .custom => some (key, .custom)
    | some .default => if customOnly then none else some (key, .default)
    | none => none

/-- A listing of the variables of a resolver, under their number. -/
def listVariables {σ : Type} (painter : Painter) (resolver : Resolver σ) (customOnly : Bool) : Text :=
  let listed := resolver.listed customOnly
  painter.paint [.bold] "Recognized template variables:".toList ++ ' ' :: Text.ofNat listed.length ++
    '\n' :: listed.flatMap (Listing.variableLine painter)

end MailTemplate
