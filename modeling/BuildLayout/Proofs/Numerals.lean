import Mathlib.Data.Nat.Digits.Defs
import Mathlib.Tactic.Ring
import Mathlib.Tactic.SplitIfs
import BuildLayout.Decimal.Numeral

/-! # Numerals read back

    A decimal numeral is read from the left, one digit after the other, and on digits only that
    is what core's `Nat.ofDigitChars` computes (`extend?_eq_some`).  So the text of a number is
    read back as the number, and the text of an integer, with its sign, as the integer
    (`integer?_repr`). -/

namespace BuildLayout.Numeral

variable {c : Char} {digits : List Char}

theorem digit?_of_isDigit (h : c.isDigit = true) : digit? 10 c = some (c.toNat - '0'.toNat) := by
  have hrange : '0' ≤ c ∧ c ≤ '9' := by
    rw [Char.isDigit, Bool.and_eq_true, decide_eq_true_eq, decide_eq_true_eq] at h
    exact h
  have hlt : c.toNat - '0'.toNat < 10 := by
    have hle : c.toNat ≤ '9'.toNat := UInt32.le_iff_toNat_le.mp hrange.2
    have hzero : '0'.toNat = 48 := rfl
    have hnine : '9'.toNat = 57 := rfl
    omega
  simp only [digit?, if_pos hrange, if_pos hlt]

/-- **DIGITS ADD UP**: on digits only, reading on never fails. -/
theorem extend?_eq_some (h : ∀ c ∈ digits, c.isDigit = true) (acc : Nat) :
    extend? 10 acc digits = some (Nat.ofDigitChars 10 digits acc) := by
  induction digits generalizing acc with
  | nil => rfl
  | cons c rest ih =>
      obtain ⟨hc, hrest⟩ := List.forall_mem_cons.mp h
      show (digit? 10 c).bind (fun d => extend? 10 (acc * 10 + d) rest) = _
      rw [digit?_of_isDigit hc, Option.bind_some, ih hrest, Nat.ofDigitChars_cons, Nat.mul_comm]

/-- The digits of a number are read as the number. -/
theorem natural?_toDigits (n : Nat) : natural? 10 (Nat.toDigits 10 n) = some n := by
  have hdigits : ∀ c ∈ Nat.toDigits 10 n, c.isDigit = true :=
    fun c hc => Nat.isDigit_of_mem_toDigits (by decide) (by decide) hc
  have hread := extend?_eq_some hdigits 0
  rw [Nat.ofDigitChars_ten_toDigits] at hread
  cases hd : Nat.toDigits 10 n with
  | nil => exact absurd hd Nat.toDigits_ne_nil
  | cons c rest =>
      rw [hd] at hread
      exact hread

/-- A numeral without a sign is not negative. -/
theorem integer?_of_isDigit (hne : digits ≠ []) (h : ∀ c ∈ digits, c.isDigit = true) :
    integer? digits = (natural? 10 digits).map Int.ofNat := by
  cases digits with
  | nil => exact absurd rfl hne
  | cons c rest =>
      have hc := h c (List.mem_cons_self ..)
      have hminus : c ≠ '-' := by
        rintro rfl
        exact absurd hc (by decide)
      have hplus : c ≠ '+' := by
        rintro rfl
        exact absurd hc (by decide)
      simp only [integer?]
      split
      · rename_i heq
        exact absurd (List.cons.inj heq).1 hminus
      · rename_i heq
        exact absurd (List.cons.inj heq).1 hplus
      · rfl

/-- **INTEGERS READ BACK**: the text of an integer is read as the integer. -/
theorem integer?_repr (n : Int) : integer? n.repr.toList = some n := by
  cases n with
  | ofNat m =>
      show integer? m.repr.toList = some (m : Int)
      rw [Nat.toList_repr, integer?_of_isDigit Nat.toDigits_ne_nil
        (fun c hc => Nat.isDigit_of_mem_toDigits (by decide) (by decide) hc), natural?_toDigits]
      rfl
  | negSucc m =>
      show integer? ("-" ++ (m + 1).repr).toList = some (Int.negSucc m)
      have hsign : ("-" ++ (m + 1).repr).toList = '-' :: Nat.toDigits 10 (m + 1) := by
        rw [String.toList_append, Nat.toList_repr]
        rfl
      rw [hsign]
      show (natural? 10 (Nat.toDigits 10 (m + 1))).map (fun n => -(n : Int)) = _
      rw [natural?_toDigits]
      rfl

/-! ## What numerals denote -/

/-- What digits amount to: each counts as often as the power of ten of its place says. -/
def value (digits : List Char) : Nat :=
  Nat.ofDigits 10 (digits.reverse.map fun c => c.toNat - '0'.toNat)

/-- One or more decimal digits. -/
def IsDigits (digits : List Char) : Prop := digits ≠ [] ∧ ∀ c ∈ digits, c.isDigit = true

/-- The numeral denotes the integer: it has digits, and at most one sign in front of them. -/
inductive Denotes : List Char → Int → Prop where
  | unsigned {digits : List Char} (h : IsDigits digits) : Denotes digits (value digits)
  | plus {digits : List Char} (h : IsDigits digits) : Denotes ('+' :: digits) (value digits)
  | minus {digits : List Char} (h : IsDigits digits) : Denotes ('-' :: digits) (-value digits)

theorem ofDigitChars_eq_value (digits : List Char) (acc : Nat) :
    Nat.ofDigitChars 10 digits acc = 10 ^ digits.length * acc + value digits := by
  induction digits generalizing acc with
  | nil => simp [value]
  | cons c rest ih =>
      -- The first digit stands at the highest place.
      have hplace : value (c :: rest)
          = value rest + 10 ^ rest.length * (c.toNat - '0'.toNat) := by
        simp only [value, List.reverse_cons, List.map_append, List.map_cons, List.map_nil,
          Nat.ofDigits_append, Nat.ofDigits_singleton, List.length_map, List.length_reverse]
      rw [Nat.ofDigitChars_cons, ih, hplace, List.length_cons, Nat.pow_succ]
      ring

/-- All other characters end the numeral. -/
theorem digit?_of_not_isDigit (h : c.isDigit = false) : digit? 10 c = none := by
  have hrange : ¬('0' ≤ c ∧ c ≤ '9') := by
    intro hboth
    rw [Char.isDigit, Bool.and_eq_false_iff, decide_eq_false_iff_not,
      decide_eq_false_iff_not] at h
    exact h.elim (fun hlow => hlow hboth.1) fun hhigh => hhigh hboth.2
  -- A letter is worth ten at least.
  simp only [digit?, if_neg hrange]
  split_ifs with hlower hupper hbase hbase hbase
  · omega
  · rfl
  · omega
  · rfl
  · omega
  · rfl

theorem extend?_eq_some_iff {acc n : Nat} :
    extend? 10 acc digits = some n
      ↔ (∀ c ∈ digits, c.isDigit = true) ∧ n = Nat.ofDigitChars 10 digits acc := by
  constructor
  · intro h
    have hdigits : ∀ c ∈ digits, c.isDigit = true := by
      induction digits generalizing acc with
      | nil => exact fun c hc => nomatch hc
      | cons c rest ih =>
          obtain ⟨d, hd, hrest⟩ := Option.bind_eq_some_iff.mp h
          have hc : c.isDigit = true := by
            cases hnot : c.isDigit with
            | true => rfl
            | false => exact nomatch (digit?_of_not_isDigit hnot).symm.trans hd
          exact List.forall_mem_cons.mpr ⟨hc, ih hrest⟩
    rw [extend?_eq_some hdigits] at h
    exact ⟨hdigits, (Option.some.inj h).symm⟩
  · rintro ⟨hdigits, rfl⟩
    exact extend?_eq_some hdigits acc

theorem natural?_eq_some_iff {n : Nat} :
    natural? 10 digits = some n ↔ IsDigits digits ∧ n = value digits := by
  cases digits with
  | nil => exact ⟨fun h => (nomatch h), fun h => absurd rfl h.1.1⟩
  | cons c rest =>
      show extend? 10 0 (c :: rest) = some n ↔ _
      rw [extend?_eq_some_iff, ofDigitChars_eq_value, Nat.mul_zero, Nat.zero_add]
      exact ⟨fun h => ⟨⟨List.cons_ne_nil _ _, h.1⟩, h.2⟩, fun h => ⟨h.1.2, h.2⟩⟩

theorem integer?_minus (digits : List Char) :
    integer? ('-' :: digits) = (natural? 10 digits).map fun n => -Int.ofNat n := by
  show ((natural? 10 digits).bind fun n => some (n : Int)).map (fun z => -z) = _
  cases natural? 10 digits with
  | none => rfl
  | some n => rfl

/-- **NUMERALS**: a text is read as an integer exactly if it is a numeral for it. -/
theorem integer?_eq_some_iff {text : List Char} {z : Int} :
    integer? text = some z ↔ Denotes text z := by
  constructor
  · intro h
    unfold integer? at h
    split at h
    · rename_i digits
      have hminus : integer? ('-' :: digits) = some z := h
      rw [integer?_minus] at hminus
      obtain ⟨n, hn, rfl⟩ := Option.map_eq_some_iff.mp hminus
      obtain ⟨hdigits, rfl⟩ := natural?_eq_some_iff.mp hn
      exact .minus hdigits
    · obtain ⟨n, hn, rfl⟩ := Option.map_eq_some_iff.mp h
      obtain ⟨hdigits, rfl⟩ := natural?_eq_some_iff.mp hn
      exact .plus hdigits
    · obtain ⟨n, hn, rfl⟩ := Option.map_eq_some_iff.mp h
      obtain ⟨hdigits, rfl⟩ := natural?_eq_some_iff.mp hn
      exact .unsigned hdigits
  · intro h
    cases h with
    | @unsigned digits hdigits =>
        rw [integer?_of_isDigit hdigits.1 hdigits.2, natural?_eq_some_iff.mpr ⟨hdigits, rfl⟩]
        rfl
    | @plus digits hdigits =>
        show (natural? 10 digits).map Int.ofNat = _
        rw [natural?_eq_some_iff.mpr ⟨hdigits, rfl⟩]
        rfl
    | @minus digits hdigits =>
        rw [integer?_minus, natural?_eq_some_iff.mpr ⟨hdigits, rfl⟩]
        rfl

end BuildLayout.Numeral
