/-
Module: MailTemplate.Validation.Reading
Purpose: The directives that validation looks at, as they are read off a single line.
Main exports: Validation.printed, Validation.mention, Validation.components, Validation.references,
  Validation.componentWithArgument, Validation.leadingWord
-/
import MailTemplate.Directive.Tag
import MailTemplate.Validation.Finding

/-!
Validation reads directives by shapes that hold no closing brace, line by line, so that it can point at
markup that rendering would pass over in silence.  Names may stand without quote marks here; rendering
asks for them.
-/

namespace MailTemplate

namespace Validation

/-- The shape of any directive without a closing brace inside. -/
def printedShape : Shape :=
  [.opens, .atLeastOne (· != '}'), .closes]

/-- Directives without a closing brace inside, by their bodies without surrounding blanks. -/
def printed : Pattern Text :=
  printedShape.pattern (fun pieces => Text.trim (pieces.getD 1 [])) (Shape.isSolid_opens _)

/-- Whether a character may stand in the name of a component. -/
def isNameCharacter (c : Char) : Bool :=
  !isQuote c && !isBlank c && c != '}'

/-- The shape of a keyword and a name in quote marks. -/
def quotedMention (w : String) (quote : Char) : Shape :=
  [.opens, .blanks, .keyword w, .gap, .word [quote], .atLeastOne isNameCharacter, .word [quote], .blanks,
    .closes]

/-- The shape of a keyword and a name without quote marks. -/
def bareMention (w : String) : Shape :=
  [.opens, .blanks, .keyword w, .gap, .atLeastOne isNameCharacter, .blanks, .closes]

/-- Directives of a keyword and a name, in quote marks of either kind or in none. -/
def mention (kind : ReferenceKind) (w : String) : Pattern (ReferenceKind × Text) :=
  (((quotedMention w '"').pattern (fun pieces => (kind, pieces.getD 5 [])) (Shape.isSolid_opens _)).orElse
      ((quotedMention w '\'').pattern (fun pieces => (kind, pieces.getD 5 [])) (Shape.isSolid_opens _))).orElse
    ((bareMention w).pattern (fun pieces => (kind, pieces.getD 4 [])) (Shape.isSolid_opens _))

/-- Directives that stand for a component. -/
def components : Pattern (ReferenceKind × Text) :=
  mention .component "component"

/-- Directives that refer to an include or a layout. -/
def references : Pattern (ReferenceKind × Text) :=
  (mention .include "include").orElse (mention .layout "layout")

/-- Component directives with any argument, by the argument without surrounding blanks. -/
def componentWithArgument : Pattern Text :=
  (Directive.argumentTag "component").pattern (fun pieces => Text.trim (pieces.getD 4 []))
    (Shape.isSolid_opens _)

/-- Whether a text is a name in quote marks, which need not be alike. -/
def isQuotedName : Text → Bool
  | [] => false
  | first :: rest =>
      match rest.reverse with
      | [] => false
      | last :: inside => isQuote first && isQuote last && !inside.isEmpty && inside.all fun c => !isQuote c

/-- Whether a text is a name without quote marks. -/
def isBareName (t : Text) : Bool :=
  !t.isEmpty && t.all fun c => c.isAlphanum || c == '_' || c == '-'

/-- Whether a character may begin a word. -/
def beginsWord (c : Char) : Bool :=
  c.isAlpha || c == '_'

/-- Whether a character may go on with a word. -/
def continuesWord (c : Char) : Bool :=
  c.isAlphanum || c == '_'

/-- The shape of opening braces with a word behind them. -/
def leadingWordShape : Shape :=
  [.opens, .blanks, .one beginsWord, .many continuesWord]

/-- Opening braces with a word behind them, by the word. -/
def leadingWord : Pattern Text :=
  leadingWordShape.pattern (fun pieces => pieces.getD 2 [] ++ pieces.getD 3 []) (Shape.isSolid_opens _)

/-- Two opening braces. -/
def openings : Pattern Unit :=
  Shape.pattern [.opens] (fun _ => ()) (Shape.isSolid_opens _)

/-- Two closing braces. -/
def closings : Pattern Unit :=
  Shape.pattern [.closes] (fun _ => ()) rfl

/-- A text up to its first closing braces, or all of it. -/
def throughClosing (t : Text) : Text :=
  match closings.find? t with
  | some (before, hit, _) => before ++ hit.raw
  | none => t

/-- The last place where two opening braces stand, among those behind `column` characters: the column and
the text from there. -/
def lastOpeningOnto (found : Option (Nat × Text)) (column : Nat) : Text → Option (Nat × Text)
  | [] => found
  | c :: rest =>
      let found := if Text.startsWith Directive.opening (c :: rest) then some (column, c :: rest) else found
      lastOpeningOnto found (column + 1) rest

/-- The last place on a line where two opening braces stand. -/
def lastOpening? (line : Text) : Option (Nat × Text) :=
  lastOpeningOnto none 0 line

end Validation

end MailTemplate
