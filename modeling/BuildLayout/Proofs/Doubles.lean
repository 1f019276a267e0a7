import Mathlib.Data.Rat.Floor
import Mathlib.Tactic.FieldSimp
import Mathlib.Tactic.Linarith
import Mathlib.Tactic.Ring
import BuildLayout.Decimal.Double

/-! # What doubles denote

    The binary interchange format gives a pattern of 64 bits a sign, an exponent and a fraction,
    and gives these an exact rational number, an infinity or nothing (`Double.reading`).  The
    meaning that questions about doubles are answered from is this reading, with numbers in the
    form `±m · 2^q` (`reading_meaning`).

    So a double becomes a whole number of 32 bits as its reading has it: a number is truncated
    and then clamped (`toInt_toInt32`).  Every whole number below `2^53` is the reading of some
    double (`exists_reading_eq`). -/

namespace BuildLayout.Decimal

/-- What a pattern stands for. -/
inductive Reading where
  | notANumber
  | infinity (negative : Bool)
  | number (x : ℚ)

/-- The reading of a sign, an exponent and a fraction.  The largest exponent is kept for the
    infinities and for what is no number; numbers with the least exponent have no leading one. -/
def Reading.ofFields (negative : Bool) (exponent fraction : ℕ) : Reading :=
  if exponent = 2047 then if fraction = 0 then .infinity negative else .notANumber
  else if exponent = 0 then
    .number ((if negative then -1 else 1) * (fraction / 2 ^ 52) * 2 ^ (-1022 : ℤ))
  else
    .number ((if negative then -1 else 1) * (1 + fraction / 2 ^ 52)
      * 2 ^ ((exponent : ℤ) - 1023))

/-- The reading of a pattern: the sign in the first bit, the exponent in the next eleven, the
    fraction in the last fifty-two. -/
def Double.reading (d : Double) : Reading :=
  let word := d.bits.toBitVec
  .ofFields word.msb (word.extractLsb 62 52).toNat (word.extractLsb 51 0).toNat

/-- A number without what stands behind its point. -/
def truncated (x : ℚ) : ℤ := if 0 ≤ x then ⌊x⌋ else ⌈x⌉

theorem truncated_intCast (z : ℤ) : truncated z = z := by
  rw [truncated]
  by_cases hz : (0 : ℚ) ≤ z
  · rw [if_pos hz, Int.floor_intCast]
  · rw [if_neg hz, Int.ceil_intCast]

/-! ## Fields -/

namespace Double

variable {d : Double}

theorem negative_eq_msb (d : Double) : d.negative = d.bits.toBitVec.msb := by
  rw [BitVec.msb_eq_decide, UInt64.toNat_toBitVec]
  rfl

theorem exponent_eq_extractLsb (d : Double) :
    d.exponent = (d.bits.toBitVec.extractLsb 62 52).toNat := by
  rw [BitVec.extractLsb_toNat, UInt64.toNat_toBitVec, Nat.shiftRight_eq_div_pow]
  rfl

theorem fraction_eq_extractLsb (d : Double) :
    d.fraction = (d.bits.toBitVec.extractLsb 51 0).toNat := by
  rw [BitVec.extractLsb_toNat, UInt64.toNat_toBitVec, Nat.shiftRight_zero]
  rfl

theorem reading_eq_ofFields (d : Double) :
    d.reading = .ofFields d.negative d.exponent d.fraction := by
  rw [negative_eq_msb, exponent_eq_extractLsb, fraction_eq_extractLsb]
  rfl

/-- The pattern with the given fields. -/
def ofFields (negative : Bool) (exponent fraction : ℕ) : Double :=
  ⟨UInt64.ofNat (negative.toNat * 2 ^ 63 + exponent * 2 ^ 52 + fraction)⟩

/-- A pattern has the fields that it is made of. -/
theorem reading_ofFields (s : Bool) {e f : ℕ} (he : e < 2 ^ 11) (hf : f < 2 ^ 52) :
    (ofFields s e f).reading = .ofFields s e f := by
  have hsign : s.toNat < 2 := Bool.toNat_lt s
  have hword : (ofFields s e f).bits.toNat = s.toNat * 2 ^ 63 + e * 2 ^ 52 + f := by
    rw [ofFields, UInt64.toNat_ofNat']
    exact Nat.mod_eq_of_lt (by omega)
  have hnegative : (ofFields s e f).negative = s := by
    show decide (2 ^ 63 ≤ (ofFields s e f).bits.toNat) = s
    rw [hword]
    cases s with
    | true => exact decide_eq_true (by simp only [Bool.toNat_true]; omega)
    | false => exact decide_eq_false (by simp only [Bool.toNat_false]; omega)
  have hexponent : (ofFields s e f).exponent = e := by
    show (ofFields s e f).bits.toNat / 2 ^ 52 % 2 ^ 11 = e
    omega
  have hfraction : (ofFields s e f).fraction = f := by
    show (ofFields s e f).bits.toNat % 2 ^ 52 = f
    omega
  rw [reading_eq_ofFields, hnegative, hexponent, hfraction]

end Double

/-! ## Meaning -/

/-- The number `±m · 2^q`. -/
def signed (negative : Bool) (m : ℕ) (q : ℤ) : ℚ := (if negative then -1 else 1) * (m * 2 ^ q)

/-- A meaning as a reading. -/
def Meaning.reading : Meaning → Reading
  | .notANumber => .notANumber
  | .infinite negative => .infinity negative
  | .finite negative m q => .number (signed negative m q)

/-- **MEANING IS READING**: the numbers of the interchange format are those of the form that
    doubles are worked with. -/
theorem Double.reading_meaning (d : Double) : d.meaning.reading = d.reading := by
  rw [reading_eq_ofFields, meaning, Reading.ofFields]
  by_cases hlast : d.exponent = 2047
  · rw [if_pos hlast, if_pos hlast]
    by_cases hzero : d.fraction = 0
    · rw [if_pos hzero, if_pos hzero]
      rfl
    · rw [if_neg hzero, if_neg hzero]
      rfl
  · rw [if_neg hlast, if_neg hlast]
    by_cases hfirst : d.exponent = 0
    · rw [if_pos hfirst, if_pos hfirst]
      have hpower : (2 : ℚ) ^ (-1022 : ℤ) = 2 ^ 52 * 2 ^ (-1074 : ℤ) := by
        rw [← zpow_natCast, ← zpow_add₀ two_ne_zero]
        rfl
      show Reading.number _ = _
      rw [signed, hpower]
      congr 1
      field_simp
    · rw [if_neg hfirst, if_neg hfirst]
      have hpower : (2 : ℚ) ^ ((d.exponent : ℤ) - 1023)
          = 2 ^ 52 * 2 ^ ((d.exponent : ℤ) - 1075) := by
        rw [← zpow_natCast, ← zpow_add₀ two_ne_zero]
        congr 1
        push_cast
        ring
      have hleading : ((leadingBit : ℕ) : ℚ) = 2 ^ 52 := by norm_num [leadingBit]
      show Reading.number _ = _
      rw [signed, hpower, Nat.cast_add, hleading]
      congr 1
      field_simp

/-! ## Whole numbers of 32 bits -/

theorem wholePart_eq_floor (m : ℕ) (q : ℤ) : (wholePart m q : ℤ) = ⌊(m : ℚ) * 2 ^ q⌋ := by
  rw [wholePart]
  by_cases hq : 0 ≤ q
  · obtain ⟨k, rfl⟩ := Int.eq_ofNat_of_zero_le hq
    have hpower : (m : ℚ) * 2 ^ (k : ℤ) = ((m * 2 ^ k : ℕ) : ℚ) := by
      rw [zpow_natCast]
      push_cast
      rfl
    rw [if_pos hq, hpower, Int.floor_natCast]
    rfl
  · obtain ⟨k, hk⟩ := Int.eq_ofNat_of_zero_le (show 0 ≤ -q by omega)
    have hneg : q = -(k : ℤ) := by omega
    subst hneg
    have hpower : (m : ℚ) * 2 ^ (-(k : ℤ)) = (m : ℚ) / ((2 ^ k : ℕ) : ℚ) := by
      rw [zpow_neg, zpow_natCast, div_eq_mul_inv]
      push_cast
      rfl
    rw [if_neg hq, hpower, Rat.floor_natCast_div_natCast, neg_neg]
    rfl

/-- Truncation ignores the sign. -/
theorem truncated_signed (negative : Bool) (m : ℕ) (q : ℤ) :
    truncated (signed negative m q)
      = if negative then -(wholePart m q : ℤ) else (wholePart m q : ℤ) := by
  have hpos : (0 : ℚ) ≤ m * 2 ^ q := mul_nonneg m.cast_nonneg (zpow_nonneg zero_le_two q)
  cases negative with
  | false =>
      have hsigned : signed false m q = m * 2 ^ q := one_mul _
      rw [hsigned, truncated, if_pos hpos, wholePart_eq_floor]
      rfl
  | true =>
      have hsigned : signed true m q = -(m * 2 ^ q) := neg_one_mul _
      rw [hsigned, truncated, wholePart_eq_floor]
      show _ = -⌊(m : ℚ) * 2 ^ q⌋
      by_cases hzero : (0 : ℚ) ≤ -(m * 2 ^ q)
      · have hnone : (m : ℚ) * 2 ^ q = 0 := by linarith
        rw [if_pos hzero, hnone]
        rfl
      · rw [if_neg hzero, Int.ceil_neg]

theorem toInt_clampInt32 (z : ℤ) :
    (clampInt32 z).toInt = max (-2147483648) (min 2147483647 z) := by
  rw [clampInt32]
  by_cases hlow : z < -2147483648
  · rw [if_pos hlow, max_eq_left (by omega)]
    rfl
  · rw [if_neg hlow]
    by_cases hhigh : 2147483647 < z
    · rw [if_pos hhigh, min_eq_left (by omega)]
      rfl
    · rw [if_neg hhigh, Int32.toInt_ofInt_of_le (by omega) (by omega), min_eq_right (by omega),
        max_eq_right (by omega)]

namespace Double

variable {d : Double}

theorem toInt32_of_notANumber (h : d.reading = .notANumber) : d.toInt32 = 0 := by
  rw [← reading_meaning] at h
  rw [toInt32]
  cases hmeaning : d.meaning with
  | notANumber => rfl
  | infinite negative => exact nomatch hmeaning ▸ h
  | finite negative m q => exact nomatch hmeaning ▸ h

theorem toInt32_of_infinity {negative : Bool} (h : d.reading = .infinity negative) :
    d.toInt32 = if negative then -2147483648 else 2147483647 := by
  rw [← reading_meaning] at h
  rw [toInt32]
  cases hmeaning : d.meaning with
  | notANumber => exact nomatch hmeaning ▸ h
  | infinite negative' =>
      have hsign : negative' = negative := by
        rw [hmeaning] at h
        exact Reading.infinity.inj h
      rw [hsign]
  | finite negative m q => exact nomatch hmeaning ▸ h

/-- **TRUNCATE, THEN CLAMP**: a double that denotes a number becomes the whole number of 32 bits
    next to it on the side of zero, or the last one on its side of the range. -/
theorem toInt_toInt32 {x : ℚ} (h : d.reading = .number x) :
    d.toInt32.toInt = max (-2147483648) (min 2147483647 (truncated x)) := by
  rw [← reading_meaning] at h
  rw [toInt32]
  cases hmeaning : d.meaning with
  | notANumber => exact nomatch hmeaning ▸ h
  | infinite negative => exact nomatch hmeaning ▸ h
  | finite negative m q =>
      have hvalue : signed negative m q = x := by
        rw [hmeaning] at h
        exact Reading.number.inj h
      show (clampInt32 _).toInt = _
      rw [toInt_clampInt32, ← hvalue, truncated_signed]

/-! ## Doubles of whole numbers -/

/-- Every whole number below `2^53` is the reading of a double. -/
theorem exists_reading_eq {a : ℕ} (ha : a < 2 ^ 53) (negative : Bool) :
    ∃ d : Double, d.reading = .number ((if negative then -1 else 1) * a) := by
  by_cases hzero : a = 0
  · refine ⟨ofFields negative 0 0, ?_⟩
    rw [reading_ofFields negative (by decide) (by decide), Reading.ofFields, hzero,
      if_neg (by decide), if_pos rfl]
    congr 1
    norm_num
  · -- The leading bit of the number decides the exponent, and the bits behind it the fraction.
    obtain ⟨k, hk⟩ : ∃ k, k = a.log2 := ⟨_, rfl⟩
    have hlow : 2 ^ k ≤ a := hk ▸ Nat.log2_self_le hzero
    have hhigh : a < 2 ^ (k + 1) := hk ▸ Nat.lt_log2_self
    have hbits : k ≤ 52 := by
      have hlt : k < 53 := (Nat.pow_lt_pow_iff_right (by decide)).mp (hlow.trans_lt ha)
      omega
    have hfull : 2 ^ k * 2 ^ (52 - k) = 2 ^ 52 := by
      rw [← Nat.pow_add, Nat.add_sub_cancel' hbits]
    obtain ⟨f, hf⟩ : ∃ f, a * 2 ^ (52 - k) = 2 ^ 52 + f := by
      refine Nat.exists_eq_add_of_le ?_
      rw [← hfull]
      exact Nat.mul_le_mul_right _ hlow
    have hfraction : f < 2 ^ 52 := by
      have hdouble : a * 2 ^ (52 - k) < 2 ^ (k + 1) * 2 ^ (52 - k) :=
        Nat.mul_lt_mul_of_pos_right hhigh (Nat.two_pow_pos _)
      rw [Nat.pow_succ, Nat.mul_right_comm, hfull] at hdouble
      omega
    have hvalue : (1 + (f : ℚ) / 2 ^ 52) * 2 ^ (((1023 + k : ℕ) : ℤ) - 1023) = a := by
      have hf' : (a : ℚ) * 2 ^ (52 - k) = 2 ^ 52 + f := by exact_mod_cast hf
      have hfull' : (2 : ℚ) ^ k * 2 ^ (52 - k) = 2 ^ 52 := by exact_mod_cast hfull
      have hexp : (((1023 + k : ℕ) : ℤ) - 1023) = (k : ℤ) := by
        push_cast
        ring
      have hone : 1 + (f : ℚ) / 2 ^ 52 = a * 2 ^ (52 - k) / 2 ^ 52 := by
        rw [hf']
        field_simp
      rw [hexp, zpow_natCast, hone, div_mul_eq_mul_div, mul_assoc, mul_comm (2 ^ (52 - k) : ℚ),
        hfull', mul_div_cancel_right₀ _ (by norm_num)]
    refine ⟨ofFields negative (1023 + k) f, ?_⟩
    rw [reading_ofFields negative (by omega) hfraction, Reading.ofFields, if_neg (by omega),
      if_neg (by omega), mul_assoc, hvalue]

/-- So is every integer between `-2^53` and `2^53`. -/
theorem exists_reading_eq_intCast {z : ℤ} (hz : z.natAbs < 2 ^ 53) :
    ∃ d : Double, d.reading = .number z := by
  obtain ⟨d, hd⟩ := exists_reading_eq hz (decide (z < 0))
  refine ⟨d, ?_⟩
  rw [hd, ← Int.cast_natCast]
  congr 1
  by_cases hneg : z < 0
  · have habs : (z.natAbs : ℤ) = -z := by omega
    rw [decide_eq_true hneg, if_pos rfl, habs, Int.cast_neg, neg_one_mul, neg_neg]
  · have habs : (z.natAbs : ℤ) = z := by omega
    rw [decide_eq_false hneg, if_neg Bool.false_ne_true, habs, one_mul]

end Double

end BuildLayout.Decimal
