import BuildLayout.Proofs.Doubles
import BuildLayout.Proofs.Replay

/-! # What number properties take

    A number property takes values of three shapes, and each has its own way with what does not
    fit 32 signed bits: a text has to be a decimal numeral within the range and is refused
    otherwise (`number?_text_eq_some_iff`), an integer wraps (`dvd_sub_toInt_iff`), and a double
    is truncated and clamped (`toInt_toInt32`).  Within the range, the three shapes of a whole
    number give the same (`number_of_texts_and_integers`, `number_of_doubles`). -/

namespace BuildLayout

open Decimal

/-! ## Values -/

namespace RawValue

variable {n : Int32} {t : String}

/-- A text gives a number exactly if it is a numeral for it. -/
theorem number?_text_eq_some_iff :
    (RawValue.text t).number? = some n
      ↔ ∃ z : Int, Numeral.Denotes t.toList z
        ∧ -2147483648 ≤ z ∧ z ≤ 2147483647 ∧ n.toInt = z := by
  show (Numeral.integer? t.toList).bind fitInt32? = some n ↔ _
  rw [Option.bind_eq_some_iff]
  simp only [Numeral.integer?_eq_some_iff, fitInt32?_eq_some_iff]

theorem number?_text_eq_none
    (h : ∀ z : Int, Numeral.Denotes t.toList z → z < -2147483648 ∨ 2147483647 < z) :
    (RawValue.text t).number? = none := by
  rw [Option.eq_none_iff_forall_ne_some]
  intro n hn
  obtain ⟨z, hz, hlow, hhigh, -⟩ := number?_text_eq_some_iff.mp hn
  have hout := h z hz
  omega

end RawValue

/-- Of the numbers of 32 bits, just the wrapped one is congruent to an integer. -/
theorem dvd_sub_toInt_iff (z : Int) (k : Int32) :
    (4294967296 : Int) ∣ z - k.toInt ↔ k = Int32.ofInt z := by
  have hk : k.toInt.bmod (2 ^ 32) = k.toInt := by
    rw [← Int32.ofInt_eq_iff_bmod_eq_toInt, Int32.ofInt_toInt]
  calc (4294967296 : Int) ∣ z - k.toInt
      ↔ (z - k.toInt).bmod (2 ^ 32) = 0 := Int.dvd_iff_bmod_eq_zero
    _ ↔ z.bmod (2 ^ 32) = k.toInt.bmod (2 ^ 32) := Int.bmod_eq_bmod_iff_bmod_sub_eq_zero.symm
    _ ↔ Int32.ofInt z = k := by rw [hk, Int32.ofInt_eq_iff_bmod_eq_toInt]
    _ ↔ k = Int32.ofInt z := eq_comm

/-! ## Properties -/

namespace Property

variable {p : NumberProperty} {v : RawValue} {n : Int32} {t : String}

/-- A number property takes a text exactly for what the text denotes. -/
theorem read_numeral_eq_ok_iff :
    (Property.number p).read (.text t) = .ok (.number p n)
      ↔ ∃ z : Int, Numeral.Denotes t.toList z
        ∧ -2147483648 ≤ z ∧ z ≤ 2147483647 ∧ n.toInt = z := by
  rw [read_number_eq_ok_iff, RawValue.number?_text_eq_some_iff]

theorem read_integer (p : NumberProperty) (m : Int64) :
    (Property.number p).read (.integer m) = .ok (.number p (Int32.ofInt m.toInt)) := rfl

/-- The text of an integer is read exactly if the integer is within the range, and then the
    wrapped integer is the integer itself. -/
theorem read_text_of_integer_iff {m : Int64} :
    (Property.number p).read (.text (RawValue.integer m).shown) = .ok (.number p n)
      ↔ -2147483648 ≤ m.toInt ∧ m.toInt ≤ 2147483647 ∧ n.toInt = m.toInt := by
  rw [read_number_eq_ok_iff]
  show (Numeral.integer? m.toInt.repr.toList).bind RawValue.fitInt32? = some n ↔ _
  rw [Numeral.integer?_repr, Option.bind_some, RawValue.fitInt32?_eq_some_iff]

/-- A value that a number property takes no number from is refused, on account of the property
    and the value. -/
theorem read_number_of_none (h : v.number? = none) :
    (Property.number p).read v = .error (.invalidValue (.number p) v) := by
  simp only [read, h, Option.map_none]

/-- The refusal of a text in words. -/
theorem message_of_text (p : NumberProperty) (t : String) :
    (PropertyError.invalidValue (.number p) (.text t)).message
      = "Cannot parse project property " ++ p.declaration.key ++ "='" ++ t
        ++ "' of type 'string' as integer." := by
  have hend : "' of type '" ++ ("string" ++ ("' as " ++ ("integer" ++ ".")))
      = "' of type 'string' as integer." := by
    decide
  rw [← hend]
  show _ ++ t ++ "' of type '" ++ "string" ++ "' as " ++ "integer" ++ "." = _
  simp only [String.append_assoc]
  rfl

/-- **TEXTS HAVE TO FIT, INTEGERS WRAP**: a number property takes exactly the texts that are
    decimal numerals within 32 signed bits, and takes them for what they denote; any other it
    refuses in words that give the property, the text and what was expected.  Of an integer it
    takes the one number of 32 bits that is congruent to it.  So the text of an integer is taken
    exactly if it is within the range, and then for the same as the integer. -/
theorem number_of_texts_and_integers (p : NumberProperty) :
    (∀ (t : String) (n : Int32),
        (Property.number p).read (.text t) = .ok (.number p n)
          ↔ ∃ z : Int, Numeral.Denotes t.toList z
            ∧ -2147483648 ≤ z ∧ z ≤ 2147483647 ∧ n.toInt = z)
      ∧ (∀ t : String,
          (∀ z : Int, Numeral.Denotes t.toList z → z < -2147483648 ∨ 2147483647 < z) →
          ∃ e, (Property.number p).read (.text t) = .error e
            ∧ e = .invalidValue (.number p) (.text t)
            ∧ e.message = "Cannot parse project property " ++ p.declaration.key ++ "='" ++ t
              ++ "' of type 'string' as integer.")
      ∧ (∀ m : Int64, ∃ n : Int32,
          (Property.number p).read (.integer m) = .ok (.number p n)
            ∧ ∀ k : Int32, (4294967296 : Int) ∣ m.toInt - k.toInt ↔ k = n)
      ∧ ∀ m : Int64,
          ((∃ n, (Property.number p).read (.text (RawValue.integer m).shown)
              = .ok (.number p n))
            ↔ -2147483648 ≤ m.toInt ∧ m.toInt ≤ 2147483647)
          ∧ ∀ n, (Property.number p).read (.text (RawValue.integer m).shown)
              = .ok (.number p n) →
            n.toInt = m.toInt ∧ (Property.number p).read (.integer m) = .ok (.number p n) := by
  refine ⟨fun t n => read_numeral_eq_ok_iff, ?_, ?_, ?_⟩
  · intro t hout
    exact ⟨_, read_number_of_none (RawValue.number?_text_eq_none hout), rfl,
      message_of_text p t⟩
  · intro m
    exact ⟨_, read_integer p m, dvd_sub_toInt_iff m.toInt⟩
  · intro m
    refine ⟨⟨?_, ?_⟩, ?_⟩
    · rintro ⟨n, hn⟩
      obtain ⟨hlow, hhigh, -⟩ := read_text_of_integer_iff.mp hn
      exact ⟨hlow, hhigh⟩
    · rintro ⟨hlow, hhigh⟩
      refine ⟨Int32.ofInt m.toInt, read_text_of_integer_iff.mpr ⟨hlow, hhigh, ?_⟩⟩
      exact Int32.toInt_ofInt_of_le hlow (by omega)
    · intro n hn
      obtain ⟨-, -, heq⟩ := read_text_of_integer_iff.mp hn
      refine ⟨heq, ?_⟩
      rw [read_integer, ← heq, Int32.ofInt_toInt]

/-- A numeral with leading zeros, one just beyond the range, and an integer with its text. -/
theorem number_of_texts_and_integers_workers :
    (Property.number .shrinkerWorkers).read (.text "-0012")
        = .ok (.number .shrinkerWorkers (-12))
      ∧ (∃ e, (Property.number .shrinkerWorkers).read (.text "2147483648") = .error e
          ∧ e.message = "Cannot parse project property android.r8.maxWorkers='2147483648' "
            ++ "of type 'string' as integer.")
      ∧ (Property.number .shrinkerWorkers).read (.text (RawValue.integer (-7)).shown)
          = .ok (.number .shrinkerWorkers (-7))
      ∧ (Property.number .shrinkerWorkers).read (.integer (-7))
          = .ok (.number .shrinkerWorkers (-7)) := by
  obtain ⟨htexts, hrefused, -, hboth⟩ := number_of_texts_and_integers .shrinkerWorkers
  have hnumeral : Numeral.Denotes "-0012".toList (-12) := Numeral.integer?_eq_some_iff.mp rfl
  have hbeyond : ∀ z : Int, Numeral.Denotes "2147483648".toList z →
      z < -2147483648 ∨ 2147483647 < z := by
    intro z hz
    have hread : some 2147483648 = some z := Numeral.integer?_eq_some_iff.mpr hz
    have hvalue := Option.some.inj hread
    omega
  obtain ⟨e, herror, -, hmessage⟩ := hrefused "2147483648" hbeyond
  have hshown : (Property.number .shrinkerWorkers).read (.text (RawValue.integer (-7)).shown)
      = .ok (.number .shrinkerWorkers (-7)) := rfl
  exact ⟨(htexts _ _).mpr ⟨-12, hnumeral, by decide, by decide, rfl⟩, ⟨e, herror, hmessage⟩,
    hshown, ((hboth (-7)).2 (-7) hshown).2⟩

theorem read_float (p : NumberProperty) (d : Double) :
    (Property.number p).read (.float d) = .ok (.number p d.toInt32) := rfl

/-- **DOUBLES ARE TRUNCATED AND CLAMPED**: a number property takes every double, what is no
    number for zero, and anything else for the exact value of its pattern, truncated towards zero
    and then clamped to 32 signed bits.  So every number of 32 bits is taken for itself in all
    three shapes, and there is a double for each. -/
theorem number_of_doubles (p : NumberProperty) :
    (∀ d : Double, ∃ n : Int32,
        (Property.number p).read (.float d) = .ok (.number p n)
          ∧ match d.reading with
            | .notANumber => n = 0
            | .infinity negative => n = if negative then -2147483648 else 2147483647
            | .number x => n.toInt = max (-2147483648) (min 2147483647 (truncated x)))
      ∧ ∀ n : Int32,
          (∃ d : Double, d.reading = .number n.toInt)
          ∧ (∀ d : Double, d.reading = .number n.toInt →
              (Property.number p).read (.float d) = .ok (.number p n))
          ∧ (Property.number p).read (.integer n.toInt64) = .ok (.number p n)
          ∧ (Property.number p).read (.text n.toInt.repr) = .ok (.number p n) := by
  constructor
  · intro d
    refine ⟨d.toInt32, read_float p d, ?_⟩
    cases hreading : d.reading with
    | notANumber => exact Double.toInt32_of_notANumber hreading
    | infinity negative => exact Double.toInt32_of_infinity hreading
    | number x => exact Double.toInt_toInt32 hreading
  · intro n
    have hrange := RawValue.toInt_range n
    refine ⟨Double.exists_reading_eq_intCast (by omega), ?_, ?_, (Setting.number p n).read_shown⟩
    · intro d hd
      have hsame : d.toInt32 = n := by
        rw [← Int32.toInt_inj, Double.toInt_toInt32 hd, truncated_intCast]
        omega
      rw [read_float, hsame]
    · rw [read_integer, Int32.toInt_toInt64, Int32.ofInt_toInt]

/-- The double of the least number of 32 bits. -/
theorem number_of_doubles_workers :
    (⟨0xC1E0000000000000⟩ : Double).reading = .number (-2147483648)
      ∧ (Property.number .shrinkerWorkers).read (.float ⟨0xC1E0000000000000⟩)
          = .ok (.number .shrinkerWorkers (-2147483648)) := by
  have hreading : (⟨0xC1E0000000000000⟩ : Double).reading
      = .number ((-2147483648 : Int32).toInt : ℚ) := by
    show Reading.ofFields true 1054 0 = .number ((-2147483648 : ℤ) : ℚ)
    rw [Reading.ofFields, if_neg (by decide), if_neg (by decide)]
    norm_num
  exact ⟨hreading,
    ((number_of_doubles .shrinkerWorkers).2 (-2147483648)).2.1 _ hreading⟩

end Property

end BuildLayout
