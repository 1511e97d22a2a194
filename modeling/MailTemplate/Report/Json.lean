/-
Module: MailTemplate.Report.Json
Purpose: Writing structured values as JSON.
Main exports: JsonValue, JsonValue.pretty
-/
import MailTemplate.Text.Numeral

/-!
A value is laid out over several lines: every item of an array and every member of an object has a line of
its own, indented by two blanks more than what encloses it.  Empty ones stay on one line.  In strings only
the quote mark, the backslash and control characters are escaped.
-/

namespace MailTemplate

/-- A structured value without fractions, truth values and null. -/
inductive JsonValue where
  | number (n : Nat)
  | string (t : Text)
  | array (items : List JsonValue)
  | object (members : List (Text × JsonValue))

namespace JsonValue

/-- The four hexadecimal digits of a control character. -/
def controlDigits (c : Char) : Text :=
  let digits := Text.ofNatHex c.toNat
  List.replicate (4 - digits.length) '0' ++ digits

/-- A character as it is written inside a string. -/
def escape (c : Char) : Text :=
  match c with
  | '"' => ['\\', '"']
  | '\\' => ['\\', '\\']
  | '\x08' => ['\\', 'b']
  | '\t' => ['\\', 't']
  | '\n' => ['\\', 'n']
  | '\x0c' => ['\\', 'f']
  | '\r' => ['\\', 'r']
  | _ => if c.toNat < 32 then '\\' :: 'u' :: controlDigits c else [c]

/-- A text as a string in quote marks. -/
def quoted (t : Text) : Text :=
  '"' :: t.flatMap escape ++ ['"']

/-- A line feed and the blanks that the next line begins with. -/
def lineBreak (depth : Nat) : Text :=
  '\n' :: List.replicate (2 * depth) ' '

/-- Entries between brackets, each on a line of its own. -/
def enclosed (left right : Char) (depth : Nat) (entries : List Text) : Text :=
  if entries.isEmpty then [left, right]
  else
    left :: lineBreak (depth + 1) ++ Text.join (',' :: lineBreak (depth + 1)) entries ++
      lineBreak depth ++ [right]

mutual

/-- A value as text, inside `depth` arrays and objects. -/
def layout (depth : Nat) : JsonValue → Text
  | .number n => Text.ofNat n
  | .string t => quoted t
  | .array items => enclosed '[' ']' depth (layoutItems (depth + 1) items)
  | .object members => enclosed '{' '}' depth (layoutMembers (depth + 1) members)

/-- The items of an array as texts. -/
def layoutItems (depth : Nat) : List JsonValue → List Text
  | [] => []
  | item :: items => layout depth item :: layoutItems depth items

/-- The members of an object as texts. -/
def layoutMembers (depth : Nat) : List (Text × JsonValue) → List Text
  | [] => []
  | (name, value) :: members => (quoted name ++ [':', ' '] ++ layout depth value) :: layoutMembers depth members

end

/-- A value as text over several lines. -/
def pretty (value : JsonValue) : Text :=
  layout 0 value

end JsonValue

end MailTemplate
