import BuildLayout.Decimal.Double
import BuildLayout.Decimal.Numeral

/-! # The shortest decimal that reads back

    A double is written with the fewest decimal digits that still identify it.  The reals
    that round to `m · 2^q` form an interval around it, whose ends belong to it exactly when
    `m` is even (a tie goes to the even neighbour).  For one digit, two digits and so on the
    two points of that decimal grid next to the value are tried; the first grid with a point
    inside the interval gives the digits, and of two such points the nearer one, or the upper
    one if both are equally near.

    The digits are then laid out positionally, whatever their exponent. -/

namespace BuildLayout.Decimal

/-- The number `digits · 10^exp`. -/
structure Dec where
  digits : Nat
  exp : Int
  deriving DecidableEq, Repr

/-- How `d` compares with `n · 2^j`. -/
def Dec.compareBinary (d : Dec) (n : Nat) (j : Int) : Ordering :=
  compare (d.digits * Nat.pow 10 d.exp.toNat * Nat.pow 2 (-j).toNat)
    (n * Nat.pow 2 j.toNat * Nat.pow 10 (-d.exp).toNat)

/-- Whether the gap below `m · 2^q` is half the gap above: so it is at a power of two that
    does not have the least exponent. -/
def narrowBelow (m : Nat) (q : Int) : Bool := m == leadingBit && -1074 < q

/-- Whether `d` lies among the reals that round to `m · 2^q`. -/
def Dec.readsBack (d : Dec) (m : Nat) (q : Int) : Bool :=
  let below := d.compareBinary (if narrowBelow m q then 4 * m - 1 else 4 * m - 2) (q - 2)
  let above := d.compareBinary (4 * m + 2) (q - 2)
  let endsIncluded := m % 2 == 0
  (below == .gt || (endsIncluded && below == .eq)) &&
    (above == .lt || (endsIncluded && above == .eq))

/-- `m · 2^q · 10^s` as a quotient of naturals. -/
def scaled (m : Nat) (q s : Int) : Nat × Nat :=
  (m * Nat.pow 2 q.toNat * Nat.pow 10 s.toNat, Nat.pow 2 (-q).toNat * Nat.pow 10 (-s).toNat)

/-- The least `k` with `m · 2^q < 10^k`, for a value above zero. -/
def scale (m : Nat) (q : Int) : Int :=
  let (num, den) := scaled m q 0
  if den ≤ num then Numeral.length (num / den)
  else 1 - (Numeral.length ((den - 1) / num) : Int)

/-- The point of the grid `10^exp` that stands for `m · 2^q`, if one does. -/
def onGrid? (m : Nat) (q exp : Int) : Option Dec :=
  let (num, den) := scaled m q (-exp)
  let low : Dec := ⟨num / den, exp⟩
  let high : Dec := ⟨num / den + 1, exp⟩
  match low.readsBack m q, high.readsBack m q with
  | true, true => if 2 * num < (2 * low.digits + 1) * den then some low else some high
  | true, false => some low
  | false, true => some high
  | false, false => none

/-- `m · 2^q` written out in full. -/
def exact (m : Nat) (q : Int) : Dec :=
  if 0 ≤ q then ⟨m * Nat.pow 2 q.toNat, 0⟩ else ⟨m * Nat.pow 5 (-q).toNat, q⟩

/-- The shortest decimal that reads back as `m · 2^q`, for a value above zero. -/
def shortest (m : Nat) (q : Int) : Dec :=
  let k := scale m q
  ((List.range 17).findSome? fun n => onGrid? m q (k - (n + 1 : Nat))).getD (exact m q)

/-- The decimal in positional notation: no exponent, no point after a whole number and no
    trailing zero behind a point. -/
def Dec.positional (d : Dec) : List Char :=
  let written := Nat.toDigits 10 d.digits
  let kept := (written.reverse.dropWhile (· == '0')).reverse
  let exp := d.exp + ((written.length - kept.length : Nat) : Int)
  let point := exp + (kept.length : Int)
  if 0 ≤ exp then kept ++ List.replicate exp.toNat '0'
  else if 0 < point then kept.take point.toNat ++ '.' :: kept.drop point.toNat
  else '0' :: '.' :: List.replicate (-point).toNat '0' ++ kept

/-- A double as text: the shortest digits in positional notation, a minus sign also before
    zero, and words for what is not finite. -/
def Double.text (d : Double) : String :=
  match d.meaning with
  | .notANumber => "NaN"
  | .infinite negative => if negative then "-inf" else "inf"
  | .finite negative m q =>
    let digits := if m = 0 then ['0'] else (shortest m q).positional
    String.ofList (if negative then '-' :: digits else digits)

end BuildLayout.Decimal
