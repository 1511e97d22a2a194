/-
Module: MailTemplate.Toml.Datum
Purpose: What a TOML document says, and the library that reads it.
Main exports: Toml.Datum, Toml.Fields, Toml.Reader
-/
import MailTemplate.Text.Basic

/-!
How TOML is written is a matter for a library: all that is asked of it is what a document says.  It is a
table, whose fields hold data of a few kinds.  A document that the library takes for ill-formed says nothing.
-/

namespace MailTemplate

namespace Toml

/-- What stands in a field.  Of floating-point numbers nothing is kept. -/
inductive Datum where
  | string (t : Text)
  | integer (n : Int)
  | float
  | boolean (b : Bool)
  | array (items : List Datum)
  | table (fields : List (Text × Datum))
deriving Repr, Inhabited

/-- The fields of a table, by their keys. -/
abbrev Fields := List (Text × Datum)

/-- A library that reads TOML documents. -/
class Reader where
  /-- The fields of a document, if it is well-formed. -/
  read? : Text → Option Fields

export Reader (read?)

end Toml

end MailTemplate
