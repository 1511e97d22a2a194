/-
Module: MailTemplate.Files.Path
Purpose: Paths as texts: joining them, taking them apart, and showing them in messages.
Main exports: Path, Path.isAbsolute, Path.join, Path.isTooLong, Path.pieces, Path.names, Path.lastName?,
  Path.parent?, Path.shown, fileStem, fileExtension?
-/
import MailTemplate.Text.Numeral
import MailTemplate.Text.Unprintable

/-!
A path stays the text it was written as, because messages show it so.  What it means depends on its pieces
between slashes: empty pieces and single dots say nothing, two dots lead up, everything else is a name.
-/

namespace MailTemplate

/-- A path as it is written. -/
abbrev Path := Text

namespace Path

/-- Whether a path begins at the root. -/
def isAbsolute (path : Path) : Bool :=
  path.head? == some '/'

/-- A path seen from a base directory. -/
def join (base path : Path) : Path :=
  if isAbsolute path then path
  else if base.isEmpty || base.getLast? == some '/' then base ++ path
  else base ++ '/' :: path

/-- The length from which on paths are too long, in bytes. -/
def lengthLimit : Nat := 4096

/-- Whether a path is too long to lead anywhere. -/
def isTooLong (path : Path) : Bool :=
  lengthLimit ≤ Text.byteLength path

/-- The pieces between the slashes of a path. -/
def pieces (path : Path) : List Text :=
  Text.splitOn '/' path

/-- Whether a piece of a path says nothing. -/
def isIdle (piece : Text) : Bool :=
  piece.isEmpty || piece == ['.']

/-- The piece that leads to the enclosing directory. -/
def up : Text := ['.', '.']

/-- The pieces of a path that say something. -/
def names (path : Path) : List Text :=
  (pieces path).filter fun piece => !isIdle piece

/-- The name that a path ends in, slashes aside, unless it ends in dots. -/
def lastName? (path : Path) : Option Text :=
  ((pieces path).reverse.find? fun piece => !piece.isEmpty).filter fun piece => piece != ['.'] && piece != up

/-- A path without its last piece that says something, behind a given beginning. -/
def dropLast? (beginning body : Text) : Option Path :=
  match (pieces body).reverse.dropWhile isIdle with
  | [] => none
  | _ :: before => some (beginning ++ Text.join ['/'] (before.dropWhile isIdle).reverse)

/-- The directory that a path lies in, the empty path for a name alone.  The root and the empty path lie in
none. -/
def parent? (path : Path) : Option Path :=
  match path with
  | '/' :: body => dropLast? ['/'] body
  | ['.'] => some []
  | '.' :: '/' :: body => (dropLast? ['.'] ('/' :: body)).or (some [])
  | _ => dropLast? [] path

/-- A character as messages show it. -/
def shownCharacter (c : Char) : Text :=
  match c with
  | '\x00' => ['\\', '0']
  | '\t' => ['\\', 't']
  | '\n' => ['\\', 'n']
  | '\r' => ['\\', 'r']
  | '"' => ['\\', '"']
  | '\\' => ['\\', '\\']
  | _ => if isUnprintable c then ['\\', 'u', '{'] ++ Text.ofNatHex c.toNat ++ ['}'] else [c]

/-- A path as messages show it: in quote marks, with escapes. -/
def shown (path : Path) : Text :=
  '"' :: path.flatMap shownCharacter ++ ['"']

end Path

/-- The name of a file in front of its last dot and behind it, unless the dot begins the name. -/
def splitExtension? (name : Text) : Option (Text × Text) :=
  match Text.splitFirst '.' name.reverse with
  | some (extension, stem) =>
      if stem.isEmpty || name == Path.up then none else some (stem.reverse, extension.reverse)
  | none => none

/-- The name of a file without its extension. -/
def fileStem (name : Text) : Text :=
  match splitExtension? name with
  | some (stem, _) => stem
  | none => name

/-- The extension of a file, if its name has one. -/
def fileExtension? (name : Text) : Option Text :=
  (splitExtension? name).map (·.2)

end MailTemplate
