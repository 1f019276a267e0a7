/-! # Binary floating-point numbers

    A `Double` is a 64-bit pattern: a sign, eleven bits of exponent and fifty-two bits of
    fraction.  What a pattern means is the value of `Double.meaning`, an exact number
    `±m · 2^q`, an infinity or no number at all; every question about a double is answered
    from its meaning, in integer arithmetic. -/

namespace BuildLayout.Decimal

/-- A floating-point number of 64 bits, held as its bit pattern. -/
structure Double where
  bits : UInt64
  deriving DecidableEq, Repr

/-- What a bit pattern denotes. -/
inductive Meaning where
  | notANumber
  | infinite (negative : Bool)
  /-- The number `±m · 2^q`. -/
  | finite (negative : Bool) (m : Nat) (q : Int)
  deriving DecidableEq, Repr

/-- The weight of the leading bit, which the fraction leaves out. -/
def leadingBit : Nat := Nat.pow 2 52

namespace Double

/-- The sign bit. -/
def negative (d : Double) : Bool := Nat.pow 2 63 ≤ d.bits.toNat

/-- The eleven bits of the exponent. -/
def exponent (d : Double) : Nat := d.bits.toNat / leadingBit % Nat.pow 2 11

/-- The fifty-two bits of the fraction. -/
def fraction (d : Double) : Nat := d.bits.toNat % leadingBit

/-- The number that the pattern stands for: the largest exponent is kept for the infinities
    and for what is no number, the smallest for numbers without a leading one. -/
def meaning (d : Double) : Meaning :=
  if d.exponent = 2047 then
    if d.fraction = 0 then .infinite d.negative else .notANumber
  else if d.exponent = 0 then .finite d.negative d.fraction (-1074)
  else .finite d.negative (leadingBit + d.fraction) ((d.exponent : Int) - 1075)

/-- The double nearest to `digits · 10^exp`, a tie going to the even fraction. -/
def ofDecimal (negative : Bool) (digits : Nat) (exp : Int) : Double :=
  let magnitude := (Float.ofScientific digits (exp < 0) exp.natAbs).toBits
  ⟨if negative then magnitude ||| 0x8000000000000000 else magnitude⟩

/-- The double that is no number. -/
def notANumber : Double := ⟨0x7FF8000000000000⟩

/-- The infinity of the given sign. -/
def infinity (negative : Bool) : Double :=
  ⟨if negative then 0xFFF0000000000000 else 0x7FF0000000000000⟩

end Double

/-! ## Whole numbers of 32 bits -/

/-- The largest whole number not above `m · 2^q`. -/
def wholePart (m : Nat) (q : Int) : Nat :=
  if 0 ≤ q then m * Nat.pow 2 q.toNat else m / Nat.pow 2 (-q).toNat

/-- The nearest integer within 32 signed bits. -/
def clampInt32 (n : Int) : Int32 :=
  if n < -2147483648 then -2147483648
  else if 2147483647 < n then 2147483647
  else Int32.ofInt n

/-- The number truncated towards zero and then clamped to 32 signed bits; what is no number
    counts as zero. -/
def Double.toInt32 (d : Double) : Int32 :=
  match d.meaning with
  | .notANumber => 0
  | .infinite negative => if negative then -2147483648 else 2147483647
  | .finite negative m q =>
    clampInt32 (if negative then -(wholePart m q : Int) else (wholePart m q : Int))

end BuildLayout.Decimal
