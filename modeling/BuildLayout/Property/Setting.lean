import BuildLayout.Property.Basic
import BuildLayout.Property.Raw

/-! # Settings

    A setting is a property together with a value of its family.  Each family reads raw values
    by a rule of its own:

    * a number takes decimal text within 32 signed bits, wraps an integer to 32 bits, and
      truncates and clamps a floating-point number;
    * a flag takes a flag, or the text `true` or `false` in any ASCII case;
    * a text takes text, and any number as it is shown.

    A value that the rule does not cover is refused, and the refusal names the property and
    the value. -/

namespace BuildLayout

/-- A property with a value of its family. -/
inductive Setting where
  | number (p : NumberProperty) (value : Int32)
  | flag (p : FlagProperty) (value : Bool)
  | text (p : TextProperty) (value : String)
  deriving DecidableEq, Repr

namespace Setting

/-- The property that is set. -/
def property : Setting → Property
  | .number p _ => .number p
  | .flag p _ => .flag p
  | .text p _ => .text p

/-- The value as a user would write it. -/
def shown : Setting → String
  | .number _ n => n.toInt.repr
  | .flag _ b => if b then "true" else "false"
  | .text _ s => s

end Setting

/-- Why the properties of a build are refused. -/
inductive PropertyError where
  /-- The property cannot take the value. -/
  | invalidValue (property : Property) (value : RawValue)
  /-- The property was removed, and the project insists on supported ones. -/
  | removed (key : String) (since : Release) (advice : String)
  deriving DecidableEq, Repr

/-- The refusal in words. -/
def PropertyError.message : PropertyError → String
  | .invalidValue p v =>
    s!"Cannot parse project property {p.key}='{v.shown}' of type '{v.kind}' as {p.family.label}."
  | .removed key since advice =>
    s!"The option '{key}' was removed in version {since.number}. {advice}"

/-! ## Reading raw values -/

namespace RawValue

/-- The integer as 32 signed bits, if it fits them. -/
def fitInt32? (n : Int) : Option Int32 :=
  if -2147483648 ≤ n ∧ n ≤ 2147483647 then some (Int32.ofInt n) else none

/-- The ASCII letters `A`–`Z` in lower case, all else unchanged. -/
def asciiLower (s : String) : List Char := s.toList.map Char.toLower

/-- The value for a number property. -/
def number? : RawValue → Option Int32
  | .boolean _ => none
  | .integer n => some (Int32.ofInt n.toInt)
  | .float d => some d.toInt32
  | .text s => (Numeral.integer? s.toList).bind fitInt32?

/-- The value for a flag property. -/
def flag? : RawValue → Option Bool
  | .boolean b => some b
  | .text s =>
    if asciiLower s = "true".toList then some true
    else if asciiLower s = "false".toList then some false
    else none
  | _ => none

/-- The value for a text property. -/
def textual? : RawValue → Option String
  | .boolean _ => none
  | v => some v.shown

end RawValue

/-- The setting that gives the property the raw value, by the rule of its family. -/
def Property.read (p : Property) (v : RawValue) : Except PropertyError Setting :=
  let setting? : Option Setting :=
    match p with
    | .number q => v.number?.map (.number q)
    | .flag q => v.flag?.map (.flag q)
    | .text q => v.textual?.map (.text q)
  match setting? with
  | some s => .ok s
  | none => .error (.invalidValue p v)

end BuildLayout
