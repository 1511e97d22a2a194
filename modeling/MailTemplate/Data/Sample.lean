/-
Module: MailTemplate.Data.Sample
Purpose: The sample data that every template can print: names, dates, amounts, places and identifiers.
Main exports: sampleData
-/
import MailTemplate.Data.Resolver
import MailTemplate.Text.LetterCase
import MailTemplate.Text.Numeral

/-!
Sample values are drawn anew for each print.  All choices in a list are equally likely, and so are all
numbers of a range, the amounts in steps far finer than a cent.
-/

namespace MailTemplate

namespace Sample

variable {σ : Type} [Chance σ]

/-- A draw of a value from the state of chance. -/
abbrev Draw (σ α : Type) := StateM σ α

def firstNames : List Text :=
  ["Ana", "Carlos", "Maria", "James", "Laura", "Michael", "Carmen", "Anthony", "Isabel",
    "Frank"].map String.toList

def lastNames : List Text :=
  ["Garcia", "Rodriguez", "Smith", "Fernandez", "Lopez", "Martin", "Johnson", "Perez", "Brown",
    "Walker"].map String.toList

def companies : List Text :=
  ["TechCorp", "InnovaSoft", "DataPro", "CloudTech", "DevStudio", "WebFlow", "AppLab", "CodeWorks",
    "DigitalHub", "NetSolutions"].map String.toList

def products : List Text :=
  ["Smartphone Pro", "Laptop Ultra", "Tablet Max", "Monitor 4K", "Headphones Pro", "Digital Camera",
    "Smartwatch", "RGB Keyboard", "Gaming Mouse", "Bluetooth Speaker"].map String.toList

def cities : List Text :=
  ["Madrid", "Barcelona", "Valencia", "Seville", "Zaragoza", "Malaga", "Murcia", "Palma", "Bilbao",
    "Alicante"].map String.toList

def streets : List Text :=
  ["Main", "High", "Central", "King"].map String.toList

/-- The characters of a code before they are put into upper case.  Each letter occurs in both cases, so a
code holds a given letter twice as often as a given digit. -/
def codeCharacters : List Text :=
  "ABCDEFGHIJKLMNOPQRSTUVWXYZabcdefghijklmnopqrstuvwxyz0123456789".toList.map fun c => [c]

/-- One text of a list. -/
def pick (choices : List Text) : Draw σ Text :=
  fun s => Chance.pick choices s

/-- A number from `low` to `high`. -/
def between (low high : Nat) : Draw σ Nat := fun s =>
  let (offset, s) := Chance.upTo (high - low) s
  (low + offset.val, s)

/-- The digits of a number from `low` to `high`. -/
def numeral (low high : Nat) : Draw σ Text := do
  return Text.ofNat (← between low high)

/-- The digits of a number, padded with zeros to two places. -/
def twoPlaces (n : Nat) : Text :=
  if n < 10 then '0' :: Text.ofNat n else Text.ofNat n

/-- The number of equal steps that a range of amounts is divided into. -/
def amountSteps : Nat := 0x10000000000000

/-- An amount of cents, in units of one `amountSteps`-th of a cent, rounded to whole cents and written with
two decimal places; a half goes to the even neighbour. -/
def amount (fineCents : Nat) : Text :=
  let cents := fineCents / amountSteps
  let rest := fineCents % amountSteps
  let up := 2 * rest > amountSteps || (2 * rest == amountSteps && cents % 2 == 1)
  let cents := if up then cents + 1 else cents
  Text.ofNat (cents / 100) ++ '.' :: twoPlaces (cents % 100)

/-- A price from 1 to below 1000. -/
def price : Draw σ Text := do
  let step ← between 0 (amountSteps - 1)
  return amount (100 * amountSteps + 99900 * step)

/-- One to five times a unit price from 0 to below 999. -/
def total : Draw σ Text := do
  let step ← between 0 (amountSteps - 1)
  let count ← between 1 5
  return amount (99900 * step * count)

/-- Six letters and digits. -/
def code : Draw σ Text := do
  let mut letters : Text := []
  for _ in [0, 1, 2, 3, 4, 5] do
    letters := letters ++ (← pick codeCharacters)
  return letters.map Char.toUpper

/-- A day of the years 2024 and 2025, up to the 28th of its month. -/
def date : Draw σ Text := do
  let year ← numeral 2024 2025
  let month ← between 1 12
  let day ← between 1 28
  return year ++ '-' :: twoPlaces month ++ '-' :: twoPlaces day

/-- A text in front of a drawn one. -/
def labelled (label : String) (draw : Draw σ Text) : Draw σ Text := do
  return label.toList ++ (← draw)

/-- Two drawn texts with one between them. -/
def joined (first : Draw σ Text) (separator : String) (second : Draw σ Text) : Draw σ Text := do
  let before ← first
  let after ← second
  return before ++ separator.toList ++ after

/-- A first name and the initial of a last name, which is drawn first. -/
def displayName : Draw σ Text := do
  let last ← pick lastNames
  let first ← pick firstNames
  return first ++ [' ', last.headD 'X', '.']

/-- A value drawn anew each time. -/
def drawn (draw : Draw σ Text) : VariableValue σ :=
  .generated fun s =>
    let (t, s) := draw s
    (.ok t, s)

/-- A choice among texts. -/
def choice (choices : List String) : VariableValue σ :=
  .oneOf (choices.map String.toList)

/-- The sample variables. -/
def entries : List (String × VariableValue σ) :=
  [("first_name", drawn (pick firstNames)),
   ("last_name", drawn (pick lastNames)),
   ("full_name", drawn (joined (pick firstNames) " " (pick lastNames))),
   ("display_name", drawn displayName),
   ("username", drawn (joined (Text.lowerAscii <$> pick firstNames) "" (numeral 10 99))),
   ("email", drawn (joined (joined (Text.lowerAscii <$> pick firstNames) "."
      (Text.lowerAscii <$> pick lastNames)) "@email.com" (pure []))),
   ("company", drawn (pick companies)),
   ("company_name", drawn (pick companies)),
   ("department", choice ["Sales", "Marketing", "IT", "HR", "Finance"]),
   ("position", choice ["Manager", "Analyst", "Coordinator", "Specialist", "Director"]),
   ("date", drawn date),
   ("year", drawn (numeral 2024 2025)),
   ("month", choice ["January", "February", "March", "April", "May", "June"]),
   ("day", drawn (numeral 1 31)),
   ("time", drawn (joined (numeral 9 18) ":" (twoPlaces <$> between 0 59))),
   ("age", drawn (numeral 18 65)),
   ("price", drawn price),
   ("quantity", drawn (numeral 1 10)),
   ("total", drawn total),
   ("discount", drawn (numeral 5 25)),
   ("tax", choice ["21", "10", "4"]),
   ("product", drawn (pick products)),
   ("product_name", drawn (pick products)),
   ("category", choice ["Electronics", "Clothing", "Home", "Sports", "Books"]),
   ("brand", choice ["Apple", "Samsung", "Sony", "Nike", "Adidas"]),
   ("model", drawn (labelled "Pro-" (numeral 2020 2025))),
   ("phone", drawn (labelled "+34 " (joined (joined (numeral 600 699) " " (numeral 100 999)) " "
      (numeral 100 999)))),
   ("address", drawn (joined (pick streets) " Street " (numeral 1 200))),
   ("city", drawn (pick cities)),
   ("country", .literal "Spain".toList),
   ("postal_code", drawn (joined (numeral 10 50) "" (numeral 100 999))),
   ("order_id", drawn (labelled "ORD-" (numeral 1000 9999))),
   ("invoice_id", drawn (labelled "INV-" (numeral 1000 9999))),
   ("customer_id", drawn (labelled "CUST-" (numeral 100 999))),
   ("transaction_id", drawn (labelled "TXN-" code)),
   ("status", choice ["Active", "Pending", "Completed", "In Progress"]),
   ("priority", choice ["High", "Medium", "Low"]),
   ("type", choice ["Premium", "Standard", "Basic"]),
   ("version", drawn (joined (joined (numeral 1 3) "." (numeral 0 9)) "." (numeral 0 9))),
   ("code", drawn code),
   ("reference", drawn (labelled "REF-" (numeral 1000 9999)))]

end Sample

/-- The table of sample data that serves as the defaults. -/
def sampleData {σ : Type} [Chance σ] : DataTable σ :=
  Table.ofList (Sample.entries.map fun entry => (entry.1.toList, entry.2))

end MailTemplate
