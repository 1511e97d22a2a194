/-
Module: MailTemplate.Toml.Quoted
Purpose: Reading the strings of a TOML document.
Main exports: Toml.isStringCharacter, Toml.Quoted.read?, Toml.Quoted.readLine?
-/
import MailTemplate.Text.Numeral

/-!
A string stands in double quote marks and may hold escapes, or in single ones and holds its characters as
they are.  Three marks open a string that may go over several lines; a line feed right behind them is
dropped, and up to two marks may stand in front of the three that close it.  In a string of several lines
a backslash at the end of a line takes the line feed away with all blanks that follow it.

The readers take one character at a time and keep in a *mode* what an escape still needs.
-/

namespace MailTemplate

namespace Toml

/-- Whether a character may stand in a string or a comment: no control character but the tab. -/
def isStringCharacter (c : Char) : Bool :=
  c == '\t' || (32 ≤ c.toNat && c.toNat != 127)

namespace Quoted

/-- Where a reader of escapes stands. -/
inductive Mode where
  /-- Outside escapes; `dropping` takes blanks and line feeds away. -/
  | plain (dropping : Bool)
  /-- Behind a backslash. -/
  | escape
  /-- In a number with `left` more digits. -/
  | digits (left value : Nat)
  /-- Behind a backslash and blanks: a line feed must follow. -/
  | lineEnd
deriving Repr, Inhabited, DecidableEq

/-- The character that a letter stands for behind a backslash. -/
def escaped? : Char → Option Char
  | 'b' => some '\x08'
  | 'e' => some '\x1b'
  | 't' => some '\t'
  | 'n' => some '\n'
  | 'f' => some '\x0c'
  | 'r' => some '\r'
  | '"' => some '"'
  | '\\' => some '\\'
  | _ => none

/-- The value of a hexadecimal digit. -/
def hexDigit? (c : Char) : Option Nat :=
  if c.isDigit then some (c.toNat - '0'.toNat)
  else if 'a' ≤ c && c ≤ 'f' then some (c.toNat - 'a'.toNat + 10)
  else if 'A' ≤ c && c ≤ 'F' then some (c.toNat - 'A'.toNat + 10)
  else none

/-- The character with a number, if there is one. -/
def scalar? (n : Nat) : Option Char :=
  if n.isValidChar then some (Char.ofNat n) else none

/-- Whether a character is a blank or a tab. -/
def isInlineBlank (c : Char) : Bool :=
  c == ' ' || c == '\t'

/-- Reads the rest of a string with escapes, behind the reversed `out`: its text, and what follows its
closing marks. -/
def basicOnto (lines : Bool) : Mode → Text → Text → Option (Text × Text)
  | _, _, [] => none
  | .plain dropping, out, c :: rest =>
      if c == '"' then
        if lines then
          match rest with
          | '"' :: '"' :: '"' :: '"' :: rest => some (('"' :: '"' :: out).reverse, rest)
          | '"' :: '"' :: '"' :: rest => some (('"' :: out).reverse, rest)
          | '"' :: '"' :: rest => some (out.reverse, rest)
          | rest => basicOnto lines (.plain false) ('"' :: out) rest
        else some (out.reverse, rest)
      else if c == '\\' then basicOnto lines .escape out rest
      else if c == '\r' then
        match rest with
        | '\n' :: rest =>
            if lines then
              basicOnto lines (.plain dropping) (if dropping then out else '\n' :: '\r' :: out) rest
            else none
        | _ => none
      else if dropping && (isInlineBlank c || c == '\n') then basicOnto lines (.plain true) out rest
      else if isStringCharacter c || (lines && c == '\n') then
        basicOnto lines (.plain false) (c :: out) rest
      else none
  | .escape, out, c :: rest =>
      if c == 'x' then basicOnto lines (.digits 2 0) out rest
      else if c == 'u' then basicOnto lines (.digits 4 0) out rest
      else if c == 'U' then basicOnto lines (.digits 8 0) out rest
      else if lines && c == '\n' then basicOnto lines (.plain true) out rest
      else if lines && isInlineBlank c then basicOnto lines .lineEnd out rest
      else if lines && c == '\r' then
        match rest with
        | '\n' :: rest => basicOnto lines (.plain true) out rest
        | _ => none
      else
        match escaped? c with
        | some e => basicOnto lines (.plain false) (e :: out) rest
        | none => none
  | .digits left value, out, c :: rest =>
      match hexDigit? c with
      | none => none
      | some d =>
          if left ≤ 1 then
            match scalar? (value * 16 + d) with
            | some e => basicOnto lines (.plain false) (e :: out) rest
            | none => none
          else basicOnto lines (.digits (left - 1) (value * 16 + d)) out rest
  | .lineEnd, out, c :: rest =>
      if isInlineBlank c then basicOnto lines .lineEnd out rest
      else if c == '\n' then basicOnto lines (.plain true) out rest
      else if c == '\r' then
        match rest with
        | '\n' :: rest => basicOnto lines (.plain true) out rest
        | _ => none
      else none

/-- Reads the rest of a string without escapes, behind the reversed `out`. -/
def literalOnto (lines : Bool) (out : Text) : Text → Option (Text × Text)
  | [] => none
  | c :: rest =>
      if c == '\'' then
        if lines then
          match rest with
          | '\'' :: '\'' :: '\'' :: '\'' :: rest => some (('\'' :: '\'' :: out).reverse, rest)
          | '\'' :: '\'' :: '\'' :: rest => some (('\'' :: out).reverse, rest)
          | '\'' :: '\'' :: rest => some (out.reverse, rest)
          | rest => literalOnto lines ('\'' :: out) rest
        else some (out.reverse, rest)
      else if c == '\r' then
        match rest with
        | '\n' :: rest => if lines then literalOnto lines ('\n' :: '\r' :: out) rest else none
        | _ => none
      else if isStringCharacter c || (lines && c == '\n') then literalOnto lines (c :: out) rest
      else none

/-- A text without the line feed that it may begin with. -/
def withoutFirstBreak : Text → Text
  | '\n' :: rest => rest
  | '\r' :: '\n' :: rest => rest
  | t => t

/-- Reads a string of one line. -/
def readLine? : Text → Option (Text × Text)
  | '"' :: rest => basicOnto false (.plain false) [] rest
  | '\'' :: rest => literalOnto false [] rest
  | _ => none

/-- Reads a string. -/
def read? : Text → Option (Text × Text)
  | '"' :: '"' :: '"' :: rest => basicOnto true (.plain false) [] (withoutFirstBreak rest)
  | '\'' :: '\'' :: '\'' :: rest => literalOnto true [] (withoutFirstBreak rest)
  | t => readLine? t

end Quoted

end Toml

end MailTemplate
