/-
Module: MailTemplate.Style.OpenTag
Purpose: The tags that open elements, and the attributes that styling reads and writes.
Main exports: OpenTag, OpenTag.pattern, Attribute.pattern, OpenTag.attribute?, OpenTag.styled
-/
import MailTemplate.Style.Sheet
import MailTemplate.Text.WordCharacter

/-!
A tag opens an element if a letter stands behind its angle bracket.  Everything up to the closing bracket
belongs to its attributes, the slash of a self-closing tag included.  Only attributes whose value stands in
quote marks are read, and of two with one name the first counts.

Writing a style puts it behind all other attributes and takes the style attributes out that were there.
-/

namespace MailTemplate

/-- A tag that opens an element: its name, and the text between the name and the closing bracket. -/
structure OpenTag where
  name : Text
  attributes : Text
deriving Repr, Inhabited, DecidableEq

namespace Attribute

/-- The shape of an attribute of a given name with its value in given quote marks. -/
def shape (name : String) (quote : Char) : Shape :=
  [.one isBlank, .letters name.toList, .many isBlank, .word ['='], .many isBlank, .word [quote],
    .many (· != quote), .word [quote]]

/-- An attribute of a given name with its value in given quote marks. -/
def quoted (name : String) (quote : Char) : Pattern Text :=
  (shape name quote).pattern (fun pieces => pieces.getD 6 []) rfl

/-- Attributes of a given name, by their values. -/
def pattern (name : String) : Pattern Text :=
  (quoted name '"').orElse (quoted name '\'')

end Attribute

namespace OpenTag

/-- The shape of an opening tag.  Its name reaches up to a word boundary. -/
def shape : Shape :=
  [.word ['<'], .one Char.isAlpha, .many Char.isAlphanum, .boundary isWordCharacter,
    .many (fun c => c != '<' && c != '>'), .word ['>']]

/-- Opening tags. -/
def pattern : Pattern OpenTag :=
  shape.pattern (fun pieces => ⟨pieces.getD 1 [] ++ pieces.getD 2 [], pieces.getD 4 []⟩) rfl

/-- The value of the first attribute of a name. -/
def attribute? (tag : OpenTag) (name : String) : Option Text :=
  ((Attribute.pattern name).find? tag.attributes).map fun (_, hit, _) => hit.value

/-- The classes that a tag has. -/
def classes (tag : OpenTag) : List Text :=
  Text.words ((tag.attribute? "class").getD [])

/-- The text of a tag with a style as its last attribute, in place of those it has. -/
def styled (tag : OpenTag) (style : Text) : Text :=
  let others := Text.trimEnd ((Attribute.pattern "style").erase tag.attributes)
  let (others, closer) :=
    if others.getLast? == some '/' then (Text.trimEnd others.dropLast, [' ', '/', '>']) else (others, ['>'])
  '<' :: tag.name ++ others ++ " style=\"".toList ++ style ++ '"' :: closer

end OpenTag

end MailTemplate
