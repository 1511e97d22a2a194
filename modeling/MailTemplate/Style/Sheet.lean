/-
Module: MailTemplate.Style.Sheet
Purpose: Style sheets: their rules, selectors and declarations.
Main exports: Selector, Selector.parse?, StyleRule, tidyDeclarations, sheetRules
-/
import MailTemplate.Style.AtRule
import MailTemplate.Text.Blank
import MailTemplate.Text.LetterCase

/-!
Of a style sheet only the plain rules count: selectors, and declarations between braces.  Comments are
removed first and at-rules after them.  A selector is supported if it is the name of an element, of a class
or of an identifier alone; in a list of selectors the others are passed over.  A rule without declarations
has no effect.

Declarations are cut at semicolons and written with single quote marks, so that they can stand in an
attribute between double ones.
-/

namespace MailTemplate

/-- What a rule selects. -/
inductive Selector where
  /-- Elements of a name, in lower case. -/
  | element (name : Text)
  /-- Elements of a class. -/
  | className (name : Text)
  /-- The elements with an identifier. -/
  | identifier (name : Text)
deriving Repr, Inhabited, DecidableEq

namespace Selector

/-- Whether a character may stand in the name of a class or an identifier. -/
def isNameCharacter (c : Char) : Bool :=
  c.isAlphanum || c == '-' || c == '_'

/-- A text that is the name of a class or an identifier. -/
def name? (t : Text) : Option Text :=
  if !t.isEmpty && t.all isNameCharacter then some t else none

/-- The selector that a text without surrounding blanks spells, if it is a supported one. -/
def parse? : Text → Option Selector
  | [] => none
  | c :: rest =>
      if c == '.' then (name? rest).map .className
      else if c == '#' then (name? rest).map .identifier
      else if c.isAlpha && rest.all Char.isAlphanum then some (.element (Text.lowerAscii (c :: rest)))
      else none

/-- How strongly a selector binds: a later rank wins over an earlier one. -/
def rank : Selector → Nat
  | .element _ => 0
  | .className _ => 1
  | .identifier _ => 2

end Selector

/-- A rule of a style sheet for one selector. -/
structure StyleRule where
  selector : Selector
  declarations : Text
deriving Repr, Inhabited, DecidableEq

/-- A character as it is written inside double quote marks. -/
def singleQuoted (c : Char) : Char :=
  if c == '"' then '\'' else c

/-- What joins declarations. -/
def declarationSeparator : Text := [';', ' ']

/-- Declarations in their common form: cut at semicolons, without blanks around them, none empty. -/
def tidyDeclarations (block : Text) : Text :=
  let declarations := ((Text.splitOn ';' block).map Text.trim).filter fun t => !t.isEmpty
  Text.join declarationSeparator (declarations.map fun t => t.map singleQuoted)

namespace StyleRule

/-- Whether a character is no brace. -/
def isPlain (c : Char) : Bool :=
  c != '{' && c != '}'

/-- The shape of selectors and a block of declarations. -/
def shape : Shape :=
  [.atLeastOne isPlain, .word ['{'], .many isPlain, .word ['}']]

/-- Selectors with their declarations, both as they are written. -/
def pattern : Pattern (Text × Text) :=
  shape.pattern (fun pieces => (pieces.getD 0 [], pieces.getD 2 [])) rfl

/-- The rules that selectors with common declarations make, one for each supported selector. -/
def expand (selectors block : Text) : List StyleRule :=
  let declarations := tidyDeclarations block
  if declarations.isEmpty then []
  else
    ((Text.splitOn ',' selectors).filterMap fun t => Selector.parse? (Text.trim t)).map fun selector =>
      ⟨selector, declarations⟩

end StyleRule

/-- The rules of a style sheet in order. -/
def sheetRules (sheet : Text) : List StyleRule :=
  let plain := AtRule.pattern.erase (StyleSheet.comment.erase sheet)
  (StyleRule.pattern.hits plain).flatMap fun hit => StyleRule.expand hit.value.1 hit.value.2

end MailTemplate
