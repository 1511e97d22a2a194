/-
Module: MailTemplate.Toml.Scalar
Purpose: Reading the truth values, numbers, dates and times of a TOML document.
Main exports: Toml.integer?, Toml.isFloat, Toml.dateTime?, Toml.scalar?
-/
import MailTemplate.Toml.Value
import MailTemplate.Text.Numeral

/-!
Between two digits of a number an underscore may stand.  A decimal number has no leading zeros; a
hexadecimal, octal or binary one has no sign.  An integer beyond 128 bits and a number with a fraction
beyond the range of double precision are errors.  The seconds of a time may be left out.
-/

namespace MailTemplate

namespace Toml

/-! ### Numbers -/

/-- The digits of a row in which underscores may separate digits. -/
def digitRow? (isDigit : Char → Bool) (t : Text) : Option Text :=
  let pieces := Text.splitOn '_' t
  if pieces.all fun piece => !piece.isEmpty && piece.all isDigit then some pieces.flatten else none

/-- The digits of a decimal number without leading zeros. -/
def decimalRow? (t : Text) : Option Text :=
  (digitRow? Char.isDigit t).filter fun digits => digits.length == 1 || digits.head? != some '0'

/-- Cuts a sign off, and tells whether it is a minus sign. -/
def signed : Text → Bool × Text
  | '-' :: t => (true, t)
  | '+' :: t => (false, t)
  | t => (false, t)

/-- The value of a digit, whatever the base. -/
def digitOf (c : Char) : Nat :=
  if c.isDigit then c.toNat - '0'.toNat else c.toLower.toNat - 'a'.toNat + 10

/-- The number that a row of digits writes in a base. -/
def inBase (base : Nat) (digits : Text) : Nat :=
  Text.valueInBase base (digits.map digitOf)

/-- Whether a character is a hexadecimal digit. -/
def isHexDigit (c : Char) : Bool :=
  c.isDigit || ('a' ≤ c && c ≤ 'f') || ('A' ≤ c && c ≤ 'F')

/-- The integer that a text writes. -/
def integer? (t : Text) : Option Int :=
  match t with
  | '0' :: 'x' :: row => (digitRow? isHexDigit row).map fun digits => (inBase 16 digits : Int)
  | '0' :: 'o' :: row =>
      (digitRow? (fun c => '0' ≤ c && c ≤ '7') row).map fun digits => (inBase 8 digits : Int)
  | '0' :: 'b' :: row =>
      (digitRow? (fun c => c == '0' || c == '1') row).map fun digits => (inBase 2 digits : Int)
  | _ =>
      let (negative, row) := signed t
      (decimalRow? row).map fun digits =>
        let n : Int := inBase 10 digits
        if negative then -n else n

/-- Whether an integer fits into 128 bits, with a sign or without. -/
def fitsInteger (n : Int) : Bool :=
  -(Int.pow 2 127) ≤ n && n < Int.pow 2 128

/-- Whether `mantissa * 10 ^ exponent` is below the numbers that double precision rounds to infinity. -/
def fitsDouble (mantissa : Nat) (exponent : Int) : Bool :=
  let bound := Nat.pow 2 1024 - Nat.pow 2 970
  let magnitude : Int := (Text.ofNat mantissa).length + exponent
  if mantissa == 0 || magnitude < 309 then true
  else if 309 < magnitude then false
  else mantissa * Nat.pow 10 exponent.toNat < bound * Nat.pow 10 (-exponent).toNat

/-- The digits behind the point of a number, none without a point. -/
def fraction? : Option Text → Option Text
  | none => some []
  | some t => digitRow? Char.isDigit t

/-- The exponent of a number, zero without one. -/
def exponent? : Option Text → Option Int
  | none => some 0
  | some t =>
      let (negative, row) := signed t
      (digitRow? Char.isDigit row).map fun digits =>
        let n : Int := inBase 10 digits
        if negative then -n else n

/-- Cuts a text at the first character of a class, if there is one. -/
def cutAt (p : Char → Bool) (t : Text) : Text × Option Text :=
  match Text.takeRun (fun c => !p c) t with
  | (before, []) => (before, none)
  | (before, _ :: after) => (before, some after)

/-- Whether a text writes a number with a fraction or an exponent, or one that is none. -/
def isFloat (t : Text) : Bool :=
  let (_, t) := signed t
  if t == "inf".toList || t == "nan".toList then true
  else
    let (mantissa, exponent) := cutAt (fun c => c == 'e' || c == 'E') t
    let (whole, fraction) := cutAt (· == '.') mantissa
    match decimalRow? whole, fraction? fraction, exponent? exponent with
    | some whole, some digits, some shift =>
        (fraction.isSome || exponent.isSome) &&
          fitsDouble (inBase 10 (whole ++ digits)) (shift - digits.length)
    | _, _, _ => false

/-! ### Dates and times -/

/-- Reads a number of exactly `count` digits. -/
def fixed? (count : Nat) (t : Text) : Option (Nat × Text) :=
  let digits := t.take count
  if digits.length == count && digits.all Char.isDigit then some (inBase 10 digits, t.drop count) else none

/-- Reads a given character. -/
def mark? (mark : Char) : Text → Option Text
  | [] => none
  | c :: rest => if c == mark then some rest else none

/-- The number of days in a month. -/
def daysIn (year month : Nat) : Nat :=
  if month == 2 then
    if year % 4 == 0 && (year % 100 != 0 || year % 400 == 0) then 29 else 28
  else if month == 4 || month == 6 || month == 9 || month == 11 then 30
  else 31

/-- The date at the head of a text. -/
def date? (t : Text) : Option (Text × Text) := do
  let (year, rest) ← fixed? 4 t
  let (month, rest) ← fixed? 2 (← mark? '-' rest)
  let (day, rest) ← fixed? 2 (← mark? '-' rest)
  if 1 ≤ month && month ≤ 12 && 1 ≤ day && day ≤ daysIn year month then some (t.take 10, rest) else none

/-- The fraction of a second at the head of a text: nine digits at most, without zeros at the end. -/
def secondFraction? (t : Text) : Option (Text × Text) :=
  match t with
  | '.' :: rest =>
      match Text.takeRun Char.isDigit rest with
      | ([], _) => none
      | (digits, rest) =>
          let kept := ((digits.take 9).reverse.dropWhile (· == '0')).reverse
          some (if kept.isEmpty then [] else '.' :: kept, rest)
  | _ => some ([], t)

/-- The seconds at the head of a text, behind a colon; zero if they are left out. -/
def seconds? (t : Text) : Option (Text × Text) :=
  match t with
  | ':' :: rest => do
      let (second, rest) ← fixed? 2 rest
      let (fraction, rest) ← secondFraction? rest
      if second ≤ 60 then some (t.take 3 ++ fraction, rest) else none
  | _ => some (":00".toList, t)

/-- The time at the head of a text. -/
def time? (t : Text) : Option (Text × Text) := do
  let (hour, rest) ← fixed? 2 t
  let (minute, rest) ← fixed? 2 (← mark? ':' rest)
  let (seconds, rest) ← seconds? rest
  if hour < 24 && minute < 60 then some (t.take 5 ++ seconds, rest) else none

/-- The distance from universal time that a whole text writes. -/
def offset? (t : Text) : Option Text :=
  match t with
  | [] => some []
  | ['Z'] => some ['Z']
  | ['z'] => some ['Z']
  | sign :: rest => do
      if sign != '+' && sign != '-' then none
      let (hours, after) ← fixed? 2 rest
      let (minutes, after) ← fixed? 2 (← mark? ':' after)
      if !after.isEmpty || 24 ≤ hours || 60 ≤ minutes then none
      some ((if hours == 0 && minutes == 0 then '+' else sign) :: rest)

/-- Whether a character separates a date from a time. -/
def isDateSeparator (c : Char) : Bool :=
  c == 'T' || c == 't' || c == ' '

/-- The date, time or both that a text writes, in their common form. -/
def dateTime? (t : Text) : Option Text :=
  match date? t with
  | some (date, []) => some date
  | some (date, separator :: rest) => do
      if !isDateSeparator separator then none
      let (time, rest) ← time? rest
      let offset ← offset? rest
      some (date ++ 'T' :: time ++ offset)
  | none =>
      match time? t with
      | some (time, []) => some time
      | _ => none

/-! ### All of them -/

/-- The value that a text without quote marks and brackets writes. -/
def scalar? (t : Text) : Option Value :=
  if t == "true".toList then some (.boolean true)
  else if t == "false".toList then some (.boolean false)
  else
    match integer? t with
    | some n => if fitsInteger n then some (.integer n) else none
    | none =>
        if isFloat t then some .float
        else (dateTime? t).map .dateTime

end Toml

end MailTemplate
