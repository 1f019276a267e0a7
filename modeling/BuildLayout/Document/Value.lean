import BuildLayout.Decimal.Double
import BuildLayout.Document.Moment

/-! # Values of a document

    What a document says, once it has been read: texts, numbers, flags and moments, lists of
    values, and tables of values under distinct keys. -/

namespace BuildLayout.Document

/-- A value in a document. -/
inductive Value where
  | text (s : String)
  | integer (n : Int64)
  | float (d : Decimal.Double)
  | boolean (b : Bool)
  | moment (m : Moment)
  | array (items : List Value)
  | table (entries : List (String × Value))
  deriving Repr

/-- The key under which a moment holds its text when a table is asked for. -/
def momentKey : String := "$__toml_private_datetime"

namespace Value

/-- The text, if the value is one. -/
def text? : Value → Option String
  | text s => some s
  | _ => none

/-- The flag, if the value is one. -/
def boolean? : Value → Option Bool
  | boolean b => some b
  | _ => none

/-- The items, if the value is a list. -/
def items? : Value → Option (List Value)
  | array items => some items
  | _ => none

/-- The entries, if the value is a table or can stand for one: a moment counts as a table with
    its text as the one entry. -/
def entries? : Value → Option (List (String × Value))
  | table entries => some entries
  | moment m => some [(momentKey, .text m.text)]
  | _ => none

end Value

end BuildLayout.Document
