import StoredProperty.Proofs.Binary64.Notation
import StoredProperty.Proofs.Binary64.Rounding

/-!
# Integers and words

A word is read as the integer in front of its point, which is brought into the range of integers (`toInt64_signed`).
An integer is kept in a word up to rounding, which is odd and keeps the order (`roundedInt`); so what is read of it
again is the rounded integer, or the end of the range where rounding leaves it (`toInt64_ofInt64`).
-/

namespace StoredProperty

namespace Text

variable {i j : Int}

/-- Clamping moves an integer to the nearer end of the range, if it lies outside. -/
theorem toInt_clampInt64 (i : Int) :
    (clampInt64 i).toInt = max Int64.minValue.toInt (min i Int64.maxValue.toInt) := by
  have low := Int64.toInt_minValue
  have high := Int64.toInt_maxValue
  rw [clampInt64]
  split
  · next below => omega
  · split
    · next above => omega
    · next below above =>
      rw [Int64.toInt_ofInt_of_le (by omega) (by omega)]
      omega

/-- Clamping keeps the order. -/
theorem clampInt64_le_clampInt64 (le : i ≤ j) : clampInt64 i ≤ clampInt64 j := by
  rw [Int64.le_iff_toInt_le, toInt_clampInt64, toInt_clampInt64]
  omega

theorem clampInt64_toInt (n : Int64) : clampInt64 n.toInt = n := by
  have low := n.minValue_le_toInt
  have high := n.toInt_le
  rw [← Int64.toInt_inj, toInt_clampInt64]
  omega

end Text

namespace Binary64

variable {m : Nat}

/-! ## Words as integers -/

theorem signed_bits (small : m < signBit) (negative : Bool) :
    (signed negative m).bits.toNat = if negative then signBit + m else m := by
  have bit : signBit = 2 ^ 63 := rfl
  have word : (UInt64.ofNat m).toNat = m := UInt64.toNat_ofNat_of_lt' (by rw [UInt64.size]; omega)
  cases negative with
  | false => exact word
  | true =>
    have flipped : m ^^^ signBit = signBit + m := by
      have xor := xor_signBit (Nat.le_add_right signBit m) (by omega)
      rwa [Nat.add_mod_left, Nat.mod_eq_of_lt small] at xor
    show (UInt64.ofNat m ^^^ 0x8000000000000000).toNat = signBit + m
    rw [UInt64.toNat_xor, word]
    exact flipped

/-- The sign bit does not reach into the magnitude. -/
theorem magnitude_signed (small : m < signBit) (negative : Bool) : (signed negative m).magnitude = m := by
  rw [magnitude, signed_bits small]
  cases negative with
  | false => exact Nat.mod_eq_of_lt small
  | true => simp [Nat.mod_eq_of_lt small]

theorem isNegative_signed (small : m < signBit) (negative : Bool) : (signed negative m).isNegative = negative := by
  rw [isNegative, signed_bits small]
  cases negative with
  | false => simpa using small
  | true => simp

/-- What stands in front of the point; an infinite magnitude is out of the range of integers. -/
def whole (m : Nat) : Nat := if m = infinityMagnitude then signBit else units m / unitsPerOne

/-- A number behind a sign. -/
def behind (negative : Bool) (n : Nat) : Int := if negative then -n else n

/-- A number is cut to a whole one and clamped. -/
theorem toInt64_signed (number : m ≤ infinityMagnitude) (negative : Bool) :
    (signed negative m).toInt64 = Text.clampInt64 (behind negative (whole m)) := by
  have small : m < signBit := Nat.lt_of_le_of_lt number (by decide)
  have known : (signed negative m).isNaN = false := by
    rw [isNaN, magnitude_signed small]
    simpa using number
  simp only [toInt64, known, isInfinite, magnitude_signed small, isNegative_signed small, beq_iff_eq, behind, whole]
  rfl

/-! ## Integers as words -/

section

variable {i j : Int}

/-- The integer that an integer is rounded to. -/
def roundedInt (i : Int) : Int := behind (i < 0) (rounded i.natAbs)

theorem natAbs_toInt_le (n : Int64) : n.toInt.natAbs ≤ signBit := by
  have bit : signBit = 2 ^ 63 := rfl
  have low := n.le_toInt
  have high := n.toInt_lt
  omega

/-- An integer that went through a float is rounded, and clamped at the upper end. -/
theorem toInt64_ofInt64 (n : Int64) : (ofInt64 n).toInt64 = Text.clampInt64 (roundedInt n.toInt) := by
  have finite : nearest n.toInt.natAbs 1 < infinityMagnitude := nearest_lt_infinity (natAbs_toInt_le n)
  have kept : whole (nearest n.toInt.natAbs 1) = rounded n.toInt.natAbs := if_neg (Nat.ne_of_lt finite)
  rw [ofInt64, toInt64_signed (Nat.le_of_lt finite), kept, roundedInt]

/-- Only zero is kept as a zero: all others are as large as one, at least. -/
theorem isZero_ofInt64 (n : Int64) : (ofInt64 n).isZero = (n == 0) := by
  have finite : nearest n.toInt.natAbs 1 < signBit :=
    Nat.lt_trans (nearest_lt_infinity (natAbs_toInt_le n)) (by decide)
  rw [isZero, ofInt64, magnitude_signed finite]
  by_cases zero : n = 0
  · have none : nearest (0 : Int64).toInt.natAbs 1 = 0 := by decide +kernel
    rw [zero, none]
    rfl
  · have some : 1 ≤ n.toInt.natAbs := by
      have other : n.toInt ≠ 0 := fun same => zero (Int64.toInt_inj.1 same)
      omega
    have one : nearest 1 1 = (1022 + 0) * exponentBit + 2 ^ 52 := nearest_two_pow (k := 0) (by decide)
    have large : 1022 * exponentBit < nearest n.toInt.natAbs 1 :=
      Nat.lt_of_lt_of_le (by rw [one]; decide) (nearest_le_nearest some 1)
    have left : (nearest n.toInt.natAbs 1 == 0) = false := by
      rw [beq_eq_false_iff_ne]
      omega
    rw [left]
    exact (beq_eq_false_iff_ne.2 zero).symm

theorem roundedInt_cases (i : Int) :
    (i < 0 ∧ roundedInt i = -rounded i.natAbs) ∨ (0 ≤ i ∧ roundedInt i = rounded i.natAbs) := by
  rw [roundedInt, behind]
  split
  · next negative => exact .inl ⟨by simpa using negative, rfl⟩
  · next natural => exact .inr ⟨by simpa using natural, rfl⟩

/-- Rounding keeps the order, across zero too. -/
theorem roundedInt_le_roundedInt (le : i ≤ j) : roundedInt i ≤ roundedInt j := by
  rcases roundedInt_cases i with ⟨low, left⟩ | ⟨low, left⟩ <;>
    rcases roundedInt_cases j with ⟨high, right⟩ | ⟨high, right⟩
  · have magnitudes : rounded j.natAbs ≤ rounded i.natAbs := rounded_le_rounded (by omega)
    omega
  · omega
  · omega
  · have magnitudes : rounded i.natAbs ≤ rounded j.natAbs := rounded_le_rounded (by omega)
    omega

/-- Small integers are floats. -/
theorem roundedInt_of_natAbs_le (small : i.natAbs ≤ 2 ^ 53) : roundedInt i = i := by
  have same := rounded_of_le small
  have sign := roundedInt_cases i
  omega

/-- Within the range of integers rounding moves by at most half of a gap of 1024. -/
theorem roundedInt_near (small : i.natAbs ≤ signBit) : (roundedInt i - i).natAbs ≤ 512 := by
  have near := rounded_near small
  have sign := roundedInt_cases i
  omega

theorem natAbs_roundedInt (i : Int) : (roundedInt i).natAbs = rounded i.natAbs := by
  have sign := roundedInt_cases i
  omega

/-- What is rounded is a float, and stays. -/
theorem roundedInt_roundedInt (small : i.natAbs ≤ signBit) : roundedInt (roundedInt i) = roundedInt i := by
  have again : rounded (roundedInt i).natAbs = rounded i.natAbs := by
    rw [natAbs_roundedInt, rounded_rounded small]
  have sign := roundedInt_cases i
  have sign' := roundedInt_cases (roundedInt i)
  omega

end

/-! ## Integers as text -/

section

variable {cs ds : List Char} {i : Int}

theorem decimal?_of_digits (some : ds ≠ []) (digits : ∀ c ∈ ds, c.isDigit = true) :
    decimal? ds = .some (ofDecimal (Nat.ofDigitChars 10 ds 0) 0) := by
  have cut : takeDigits (ds ++ []) = (ds, []) := Text.span_append_of_stop digits rfl
  rw [List.append_nil] at cut
  simp [decimal?, cut, some, exponent?, Text.digitsValue_eq]

/-- An integer is read as a word near to it, behind its sign. -/
theorem read?_of_writesInteger (written : Text.WritesInteger cs i) :
    ∃ negative, i = behind negative i.natAbs ∧ read? cs = some (signed negative (ofDecimal i.natAbs 0)) := by
  cases written with
  | plain some digits =>
    refine ⟨false, by simp [behind], ?_⟩
    rw [read?_of_digit (Text.head?_isDigit_of_digits some digits), decimal?_of_digits some digits]
    rfl
  | plus some digits =>
    refine ⟨false, by simp [behind], ?_⟩
    rw [read?, magnitude?_of_digit (Text.head?_isDigit_of_digits some digits), decimal?_of_digits some digits]
    rfl
  | minus some digits =>
    refine ⟨true, by simp [behind], ?_⟩
    rw [read?, magnitude?_of_digit (Text.head?_isDigit_of_digits some digits), decimal?_of_digits some digits,
      Int.natAbs_neg]
    rfl

/-- Past the range of integers the digits are read as a number past the range, or as an infinite one. -/
theorem ofDecimal_of_signBit_le {n : Nat} (large : signBit ≤ n) :
    ofDecimal n 0 ≤ infinityMagnitude ∧ signBit ≤ whole (ofDecimal n 0) := by
  have some : n ≠ 0 := by
    rintro rfl
    exact absurd large (by decide)
  by_cases moderate : ((Nat.toDigits 10 n).length : Int) + 0 ≤ 310
  · have rounds : ofDecimal n 0 = nearest n 1 := by
      rw [ofDecimal_of_bounds some (by omega) moderate]
      simp
    rw [rounds]
    refine ⟨Nat.min_le_right .., ?_⟩
    rw [whole]
    split
    · exact Nat.le_refl _
    · rw [← rounded_signBit]
      exact rounded_le_rounded large
  · have infinite : ofDecimal n 0 = infinityMagnitude := by
      have long : ((Nat.toDigits 10 n).length : Int) + 0 > 310 := by omega
      have short : ¬ ((Nat.toDigits 10 n).length : Int) + 0 < -330 := by omega
      simp only [ofDecimal, some, long, short, decide_false, Bool.or_false, Bool.false_eq_true, if_false, if_true]
    rw [infinite]
    exact ⟨Nat.le_refl _, Nat.le_of_eq (if_pos rfl).symm⟩

end

end Binary64

end StoredProperty
