/-! # Numerals

    Reading whole numbers written with the digits `0`–`9`, `a`–`f` in a base up to sixteen.
    Only these ASCII digits count, in either case; blanks and separators do not. -/

namespace BuildLayout.Numeral

/-- The value of a digit in the given base. -/
def digit? (base : Nat) (c : Char) : Option Nat :=
  let value :=
    if '0' ≤ c ∧ c ≤ '9' then c.toNat - '0'.toNat
    else if 'a' ≤ c ∧ c ≤ 'f' then c.toNat - 'a'.toNat + 10
    else if 'A' ≤ c ∧ c ≤ 'F' then c.toNat - 'A'.toNat + 10
    else base
  if value < base then some value else none

/-- Whether the character is a decimal digit. -/
def isDigit (c : Char) : Bool := (digit? 10 c).isSome

/-- The value of the digits that follow a numeral worth `acc`. -/
def extend? (base : Nat) (acc : Nat) : List Char → Option Nat
  | [] => some acc
  | c :: rest => (digit? base c).bind fun d => extend? base (acc * base + d) rest

/-- The value of a numeral of one or more digits. -/
def natural? (base : Nat) : List Char → Option Nat
  | [] => none
  | digits => extend? base 0 digits

/-- The value of a decimal numeral with at most one sign in front. -/
def integer? : List Char → Option Int
  | '-' :: digits => (natural? 10 digits).map fun n => -(n : Int)
  | '+' :: digits => (natural? 10 digits).map Int.ofNat
  | digits => (natural? 10 digits).map Int.ofNat

/-- The number of decimal digits of `n`, one for zero. -/
def length (n : Nat) : Nat := (Nat.toDigits 10 n).length

end BuildLayout.Numeral
