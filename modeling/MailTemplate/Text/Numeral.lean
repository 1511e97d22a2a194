/-
Module: MailTemplate.Text.Numeral
Purpose: Natural numbers in text: reading machine-sized counts, printing in decimal and hexadecimal.
Main exports: Text.ofNat, Text.ofNatHex, Text.readNat?, countLimit, Text.readCount?
-/
import MailTemplate.Text.Basic

/-!
Counts are read with a bound: a count is at most `countLimit`, the largest 64-bit number, and a digit
string beyond it is no count.  Printing has no bound.
-/

namespace MailTemplate

/-- The largest count. -/
def countLimit : Nat := 18446744073709551615

namespace Text

/-- The decimal digits of a number, most significant first, zero as one digit. -/
def ofNat (n : Nat) : Text :=
  Nat.toDigits 10 n

/-- The hexadecimal digits of a number in lower case. -/
def ofNatHex (n : Nat) : Text :=
  Nat.toDigits 16 n

/-- The value of a digit sequence in a base, read from the left. -/
def valueInBase (base : Nat) (digits : List Nat) : Nat :=
  digits.foldl (fun n d => n * base + d) 0

/-- The value of an ASCII digit. -/
def digitValue (c : Char) : Nat := c.toNat - '0'.toNat

/-- The number that a non-empty row of ASCII digits writes. -/
def readNat? (t : Text) : Option Nat :=
  if t.isEmpty || !t.all Char.isDigit then none
  else some (valueInBase 10 (t.map digitValue))

/-- A count as it is written for a loop: ASCII digits, possibly behind one plus sign, within the limit. -/
def readCount? (t : Text) : Option Nat :=
  let digits := match t with
    | '+' :: rest => rest
    | _ => t
  (readNat? digits).filter (· ≤ countLimit)

end Text

end MailTemplate
