/-
Module: MailTemplate.Toml.Document
Purpose: Reading TOML documents.
Main exports: Toml.key?, Toml.value?, Toml.parse?, Toml.Value.datum
-/
import MailTemplate.Toml.Datum
import MailTemplate.Toml.Quoted
import MailTemplate.Toml.Scalar

/-!
A document is a row of lines: keys with values, headers, comments and empty lines.  Values may themselves
go over several lines, so a line ends where what stands on it ends: line feeds and comments may stand
anywhere between the parts of an array or an inline table, though not within a key.  A byte order mark at
the beginning is passed over.

Values nest, and each step into a value takes one unit of fuel; every step takes a character off the text
too, so fuel for each character is enough.

A document says what its values say, however its tables are written.  A date or time counts as a table of
one key that no record has.
-/

namespace MailTemplate

namespace Toml

/-! ### Between values -/

/-- A text without the blanks at its head. -/
def skipBlanks (t : Text) : Text :=
  t.dropWhile Quoted.isInlineBlank

/-- What follows a line feed, or nothing at the end of a document. -/
def lineBreak? : Text → Option Text
  | [] => some []
  | '\n' :: rest => some rest
  | '\r' :: '\n' :: rest => some rest
  | _ => none

/-- What follows the end of a line, which may hold a comment. -/
def lineEnd? (t : Text) : Option Text :=
  match skipBlanks t with
  | '#' :: comment => lineBreak? (comment.dropWhile isStringCharacter)
  | t => lineBreak? t

/-- What follows blanks, line feeds and comments; `comment` tells whether a comment is open. -/
def skipLines? (comment : Bool) : Text → Option Text
  | [] => some []
  | '\n' :: rest => skipLines? false rest
  | '\r' :: '\n' :: rest => skipLines? false rest
  | c :: rest =>
      if comment then if isStringCharacter c then skipLines? true rest else none
      else if Quoted.isInlineBlank c then skipLines? false rest
      else if c == '#' then skipLines? true rest
      else some (c :: rest)

/-! ### Keys -/

/-- Whether a character may stand in a key without quote marks. -/
def isBareKeyCharacter (c : Char) : Bool :=
  c.isAlphanum || c == '_' || c == '-'

/-- Reads one part of a key. -/
def keyPart? (t : Text) : Option (Text × Text) :=
  match Text.takeRun isBareKeyCharacter t with
  | ([], _) => Quoted.readLine? t
  | taken => some taken

/-- Reads a key: its parts but the last, and the last one. -/
def key? : Nat → Text → Option ((List Text × Text) × Text)
  | 0, _ => none
  | fuel + 1, t => do
      let (part, rest) ← keyPart? (skipBlanks t)
      match skipBlanks rest with
      | '.' :: rest =>
          let ((path, last), rest) ← key? fuel rest
          some ((part :: path, last), rest)
      | rest => some (([], part), rest)

/-! ### Values -/

/-- Whether a character may stand in a value without quote marks and brackets. -/
def isScalarCharacter (c : Char) : Bool :=
  c.isAlphanum || c == '_' || c == '-' || c == '+' || c == '.' || c == ':'

/-- Reads a value without quote marks and brackets.  A date may be separated from a time by a blank. -/
def scalarValue? (t : Text) : Option (Value × Text) :=
  let (taken, rest) := Text.takeRun isScalarCharacter t
  match rest with
  | ' ' :: c :: after =>
      if c.isDigit && (date? taken).any (fun found => found.2.isEmpty) then
        let (time, rest) := Text.takeRun isScalarCharacter (c :: after)
        (scalar? (taken ++ ' ' :: time)).map fun value => (value, rest)
      else (scalar? taken).map fun value => (value, rest)
  | _ => (scalar? taken).map fun value => (value, rest)

mutual

/-- Reads a value inside `depth` others. -/
def value? : Nat → Nat → Text → Option (Value × Text)
  | 0, _, _ => none
  | fuel + 1, depth, t =>
      match t with
      | '[' :: rest => if nestingLimit ≤ depth then none else items? fuel (depth + 1) [] rest
      | '{' :: rest => if nestingLimit ≤ depth then none else members? fuel (depth + 1) [] rest
      | c :: _ =>
          if c == '"' || c == '\'' then (Quoted.read? t).map fun (t, rest) => (.string t, rest)
          else scalarValue? t
      | [] => none

/-- Reads the items of an array up to its closing bracket, behind the reversed `before`. -/
def items? : Nat → Nat → List Value → Text → Option (Value × Text)
  | 0, _, _, _ => none
  | fuel + 1, depth, before, t => do
      match ← skipLines? false t with
      | ']' :: rest => some (.array false before.reverse, rest)
      | t =>
          let (item, rest) ← value? fuel depth t
          match ← skipLines? false rest with
          | ',' :: rest => items? fuel depth (item :: before) rest
          | ']' :: rest => some (.array false (item :: before).reverse, rest)
          | _ => none

/-- Reads the members of an inline table up to its closing brace, behind the `entries` it holds already. -/
def members? : Nat → Nat → Entries → Text → Option (Value × Text)
  | 0, _, _, _ => none
  | fuel + 1, depth, entries, t => do
      match ← skipLines? false t with
      | '}' :: rest => some (.table .inline entries, rest)
      | t =>
          let ((path, key), rest) ← key? (fuel + 1) t
          let rest ← mark? '=' (← skipLines? false rest)
          let (value, rest) ← value? fuel depth (← skipLines? false rest)
          let entries ← addKey? path key value .header entries
          match ← skipLines? false rest with
          | ',' :: rest => members? fuel depth entries rest
          | '}' :: rest => some (.table .inline entries, rest)
          | _ => none

end

/-! ### Documents -/

/-- What has been read of a document: the entries of its root, and the header that the next keys belong
to. -/
structure Reading where
  entries : Entries
  header : List Text
deriving Repr, Inhabited

/-- Reads a header, behind its opening bracket. -/
def header? (fuel : Nat) (reading : Reading) (t : Text) : Option (Reading × Text) :=
  match t with
  | '[' :: t => do
      let ((path, key), rest) ← key? fuel t
      let rest ← mark? ']' (← mark? ']' rest)
      let entries ← appendTable? path key reading.entries
      some (⟨entries, path ++ [key]⟩, rest)
  | _ => do
      let ((path, key), rest) ← key? fuel t
      let rest ← mark? ']' rest
      let entries ← openTable? path key reading.entries
      some (⟨entries, path ++ [key]⟩, rest)

/-- Reads a key with its value. -/
def keyValue? (fuel : Nat) (reading : Reading) (t : Text) : Option (Reading × Text) := do
  let ((path, key), rest) ← key? fuel t
  let rest ← mark? '=' rest
  let (value, rest) ← value? fuel 0 (skipBlanks rest)
  let entries ← descend? false (addKey? path key value) reading.header .header reading.entries
  some (⟨entries, reading.header⟩, rest)

/-- Reads what stands on a line: a header, a key with its value, or nothing. -/
def line? (fuel : Nat) (reading : Reading) (t : Text) : Option (Reading × Text) :=
  match skipBlanks t with
  | '[' :: rest => header? fuel reading rest
  | t =>
      match lineEnd? t with
      | some _ => some (reading, t)
      | none => keyValue? fuel reading t

/-- Reads the lines of a document. -/
def lines? : Nat → Reading → Text → Option Reading
  | 0, _, _ => none
  | _ + 1, reading, [] => some reading
  | fuel + 1, reading, t => do
      let (reading, rest) ← line? (fuel + 1) reading t
      lines? fuel reading (← lineEnd? rest)

/-- A document without the byte order mark it may begin with. -/
def withoutMark : Text → Text
  | '\ufeff' :: t => t
  | t => t

/-- The entries of the root of a document, if it is well-formed. -/
def parse? (document : Text) : Option Entries :=
  let t := withoutMark document
  (lines? (t.length + 2) ⟨[], []⟩ t).map (·.entries)

/-! ### What a document says -/

/-- The key that the text of a date or time stands under. -/
def dateTimeKey : Text := "$__toml_private_datetime".toList

mutual

/-- What a value says. -/
def Value.datum : Value → Datum
  | .string t => .string t
  | .integer n => .integer n
  | .float => .float
  | .boolean b => .boolean b
  | .dateTime t => .table [(dateTimeKey, .string t)]
  | .array _ items => .array (Value.data items)
  | .table _ entries => .table (Value.fields entries)

/-- What the items of an array say. -/
def Value.data : List Value → List Datum
  | [] => []
  | value :: values => value.datum :: Value.data values

/-- What the entries of a table say. -/
def Value.fields : Entries → Fields
  | [] => []
  | (key, value) :: entries => (key, value.datum) :: Value.fields entries

end

instance : Reader where
  read? document := (parse? document).map Value.fields

end Toml

end MailTemplate
