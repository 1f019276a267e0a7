import BuildLayout.Decimal.Shortest

/-! # Raw values

    A value reaches the build in the shape its source gave it: a project file writes flags,
    numbers and texts, a command line writes texts only.  It keeps that shape until a
    property reads it. -/

namespace BuildLayout

/-- A value as its source gave it. -/
inductive RawValue where
  | boolean (b : Bool)
  | integer (n : Int64)
  | float (d : Decimal.Double)
  | text (s : String)
  deriving DecidableEq, Repr

namespace RawValue

/-- The shape of the value in one word. -/
def kind : RawValue → String
  | .boolean _ => "boolean"
  | .integer _ => "integer"
  | .float _ => "float"
  | .text _ => "string"

/-- The value as a user would write it. -/
def shown : RawValue → String
  | .boolean b => if b then "true" else "false"
  | .integer n => n.toInt.repr
  | .float d => d.text
  | .text s => s

/-- The text, if the value is one. -/
def text? : RawValue → Option String
  | .text s => some s
  | _ => none

end RawValue

end BuildLayout
