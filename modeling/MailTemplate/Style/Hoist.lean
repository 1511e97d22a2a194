/-
Module: MailTemplate.Style.Hoist
Purpose: Moving the rules of style blocks onto the elements they select.
Main exports: scriptBlock, styleBlock, Selector.selects, cascade, restyle, hoistStyles
-/
import MailTemplate.Style.OpenTag

/-!
Mail readers ignore style blocks, so the rules are written into the `style` attributes of the elements.
Scripts are removed first; then the rules of all style blocks are read and the blocks removed.

A tag gets the declarations of every rule that selects it: those for element names, then those for classes,
then those for identifiers, each kind in document order, and last the declarations the tag had before.  So
what is more specific comes later and wins.  A tag that no rule selects stays as it is written.
-/

namespace MailTemplate

namespace MarkupBlock

/-- The tag that opens a block of a given name. -/
def opener (name : String) : Pattern Unit :=
  Shape.pattern [.word ['<'], .letters name.toList, .boundary isWordCharacter, .many (· != '>'), .word ['>']]
    (fun _ => ()) rfl

/-- The tag that closes a block of a given name. -/
def closer (name : String) : Pattern Unit :=
  Shape.pattern [.word ['<', '/'], .letters name.toList, .many isBlank, .word ['>']] (fun _ => ()) rfl

/-- Blocks of a given name, by what they enclose. -/
def pattern (name : String) : Pattern (Unit × Text) :=
  (opener name).block (closer name)

end MarkupBlock

/-- Blocks of script. -/
def scriptBlock : Pattern (Unit × Text) := MarkupBlock.pattern "script"

/-- Blocks of style rules. -/
def styleBlock : Pattern (Unit × Text) := MarkupBlock.pattern "style"

/-- Whether a selector selects a tag.  The name of a selected element is compared without regard to case,
classes and identifiers exactly. -/
def Selector.selects (tag : OpenTag) : Selector → Bool
  | .element name => name == Text.lowerAscii tag.name
  | .className name => tag.classes.contains name
  | .identifier name => tag.attribute? "id" == some name

/-- The rules that select a tag, in the order in which they apply. -/
def cascade (rules : List StyleRule) (tag : OpenTag) : List StyleRule :=
  let selecting := rules.filter fun rule => rule.selector.selects tag
  [0, 1, 2].flatMap fun rank => selecting.filter fun rule => rule.selector.rank == rank

/-- The declarations that a tag has of its own. -/
def ownDeclarations (tag : OpenTag) : Text :=
  tidyDeclarations ((tag.attribute? "style").getD [])

/-- The text of a tag with the rules applied. -/
def restyle (rules : List StyleRule) (hit : Hit OpenTag) : Text :=
  match cascade rules hit.value with
  | [] => hit.raw
  | selecting =>
      let declarations := selecting.map (·.declarations) ++ [ownDeclarations hit.value]
      hit.value.styled (Text.join declarationSeparator (declarations.filter fun t => !t.isEmpty))

/-- The rules of all style blocks of a text. -/
def styleRules (html : Text) : List StyleRule :=
  (styleBlock.hits html).flatMap fun hit => sheetRules hit.value.2

/-- A text with its scripts removed and its style blocks moved onto the elements. -/
def hoistStyles (html : Text) : Text :=
  let html := scriptBlock.erase html
  let unstyled := styleBlock.erase html
  match styleRules html with
  | [] => unstyled
  | rules => OpenTag.pattern.replace (restyle rules) unstyled

end MailTemplate
