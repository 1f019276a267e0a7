import BuildLayout.Document.Lexeme
import BuildLayout.Document.Value

/-! # Values without parts

    Flags, whole and floating-point numbers and moments are written without quotes, as one run
    of letters, digits and a few signs; only a date and a time may have a space between them.

    In a numeral an underscore may stand between two digits.  A decimal one has no leading
    zero; numerals in base two, eight and sixteen have a mark in front and no sign. -/

namespace BuildLayout.Document

open Decimal

/-! ## Numerals -/

/-- The digits of a numeral in the given base without the underscores between them. -/
def ungrouped? (base : Nat) : List Char → Option (List Char)
  | [] => none
  | [c] => if (Numeral.digit? base c).isSome then some [c] else none
  | c :: '_' :: rest =>
    if (Numeral.digit? base c).isSome then (ungrouped? base rest).map (c :: ·) else none
  | c :: rest =>
    if (Numeral.digit? base c).isSome then (ungrouped? base rest).map (c :: ·) else none

/-- The digits of a decimal numeral, which has no leading zero. -/
def decimalDigits? (s : List Char) : Option (List Char) :=
  match ungrouped? 10 s with
  | some ('0' :: _ :: _) => none
  | digits => digits

/-- The integer, if it fits 64 signed bits. -/
def fitInt64? (n : Int) : Option Int64 :=
  if -9223372036854775808 ≤ n ∧ n ≤ 9223372036854775807 then some (Int64.ofInt n) else none

/-- A sign at the start: whether it is a minus, and what follows. -/
def splitSign : List Char → Bool × List Char
  | '-' :: rest => (true, rest)
  | '+' :: rest => (false, rest)
  | s => (false, s)

/-- The number that stands behind the mark of a base. -/
def marked? (base : Nat) (s : List Char) : Option Int64 := do
  let digits ← ungrouped? base s
  let n ← Numeral.natural? base digits
  fitInt64? n

/-- The whole number that the text stands for. -/
def integer? : List Char → Option Int64
  | '0' :: 'x' :: rest => marked? 16 rest
  | '0' :: 'o' :: rest => marked? 8 rest
  | '0' :: 'b' :: rest => marked? 2 rest
  | s => do
    let (minus, rest) := splitSign s
    let digits ← decimalDigits? rest
    let n ← Numeral.natural? 10 digits
    fitInt64? (if minus then -(n : Int) else (n : Int))

/-! ## Floating-point numbers -/

/-- The exponent that the text stands for: nothing at all, or a mark, a sign and digits. -/
def exponent? : List Char → Option Int
  | [] => some 0
  | c :: rest => do
    if c ≠ 'e' ∧ c ≠ 'E' then none
    let (minus, rest) := splitSign rest
    let n ← Numeral.natural? 10 (← ungrouped? 10 rest)
    return if minus then -(n : Int) else (n : Int)

/-- Whether the character may stand in a numeral. -/
def isNumeralChar (c : Char) : Bool := Numeral.isDigit c || c == '_'

/-- The digits behind a decimal point, and what follows; there is no point at all or there are
    digits behind it. -/
def fraction? : List Char → Option (List Char × List Char)
  | '.' :: rest => do
    let digits ← ungrouped? 10 (rest.takeWhile isNumeralChar)
    return (digits, rest.dropWhile isNumeralChar)
  | s => some ([], s)

/-- The double nearest to `digits · 10^exp`.  What is far out of range is decided by the count
    of the digits alone. -/
def nearest (negative : Bool) (digits : List Char) (exp : Int) : Double :=
  let n := (Numeral.natural? 10 digits).getD 0
  let order := (digits.length : Int) + exp
  if n = 0 ∨ order < -400 then .ofDecimal negative 0 0
  else if 400 + (digits.length : Int) < order then .infinity negative
  else .ofDecimal negative n exp

/-- The number with a point or an exponent that the text stands for; one above the range is
    refused. -/
def decimalFloat? (s : List Char) : Option Double := do
  let (minus, body) := splitSign s
  let whole ← decimalDigits? (body.takeWhile isNumeralChar)
  let rest := body.dropWhile isNumeralChar
  if rest.isEmpty then none
  let (fraction, rest) ← fraction? rest
  let exp ← exponent? rest
  let d := nearest minus (whole ++ fraction) (exp - fraction.length)
  if d = .infinity false then none else some d

/-- The floating-point number that the text stands for. -/
def float? (s : List Char) : Option Double :=
  let (minus, body) := splitSign s
  if body = ['i', 'n', 'f'] then some (.infinity minus)
  else if body = ['n', 'a', 'n'] then some .notANumber
  else decimalFloat? s

/-! ## Values -/

/-- Whether the character may stand in a value without quotes. -/
def isAtomChar (c : Char) : Bool :=
  c.isAlphanum || c == '_' || c == '-' || c == '+' || c == '.' || c == ':'

/-- The value that the whole run stands for. -/
def atom? (s : List Char) : Option Value :=
  if s = ['t', 'r', 'u', 'e'] then some (.boolean true)
  else if s = ['f', 'a', 'l', 's', 'e'] then some (.boolean false)
  else (moment? s).map .moment <|> (float? s).map .float <|> (integer? s).map .integer

/-- A value without parts. -/
def readAtom (s : List Char) : Option (Value × List Char) := do
  let v ← atom? (s.takeWhile isAtomChar)
  let rest := s.dropWhile isAtomChar
  match v, rest with
  | .moment (.date d), ' ' :: behind =>
    let run := behind.takeWhile isAtomChar
    if run.isEmpty then return (v, rest)
    else
      let m ← timeOn? d run
      return (.moment m, behind.dropWhile isAtomChar)
  | v, rest => return (v, rest)

/-- A text or another value without parts. -/
def scalar : Reader Value := fun s =>
  match s with
  | '"' :: _ | '\'' :: _ =>
    (quotedText s).map fun (text, rest) => (.text (String.ofList text), rest)
  | s => readAtom s

end BuildLayout.Document
