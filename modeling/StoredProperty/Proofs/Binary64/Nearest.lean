import StoredProperty.Binary64.Reader
import StoredProperty.Proofs.Text.Decimal

/-!
# The nearest word

Rounding does not see a common factor of both parts of a quotient (`nearest_mul`), and the quotient that a finite
magnitude stands for is rounded to this magnitude (`nearest_of_units`). For decimals this says that zeros at the end of
the digits may as well be counted by the exponent: `ofDecimal_mul_pow`.
-/

namespace StoredProperty.Binary64

/-! ## Quotients -/

/-- The rounded quotient depends on the fraction only. -/
theorem roundDiv_mul {c : Nat} (positive : 0 < c) (n d : Nat) : roundDiv (n * c) (d * c) = roundDiv n d := by
  have quotient : n * c / (d * c) = n / d := Nat.mul_div_mul_right n d positive
  have rest : 2 * (n * c % (d * c)) = 2 * (n % d) * c := by rw [Nat.mul_mod_mul_right, Nat.mul_assoc]
  have below (a b : Nat) : a * c < b * c ↔ a < b := Nat.mul_lt_mul_right positive
  simp only [roundDiv, quotient, rest, below]

theorem roundDiv_mul_self {d : Nat} (positive : 0 < d) (q : Nat) : roundDiv (q * d) d = q := by
  simp [roundDiv, Nat.mul_div_cancel q positive, positive]

theorem nearest_mul {c : Nat} (positive : 0 < c) (n d : Nat) : nearest (n * c) (d * c) = nearest n d := by
  have numerator : n * c * unitsPerOne = n * unitsPerOne * c := Nat.mul_right_comm ..
  have denominator (p : Nat) : d * c * p = d * p * c := Nat.mul_right_comm ..
  simp only [nearest, numerator, denominator, Nat.mul_div_mul_right _ _ positive, roundDiv_mul positive]

/-! ## The quotient of a magnitude -/

variable {m : Nat}

/-- A magnitude is its exponent's steps and its significand. -/
theorem shift_significand (m : Nat) : shift m * exponentBit + significand m = m := by
  have below : shift m * exponentBit ≤ m := by
    have part : m / exponentBit * exponentBit ≤ m := Nat.div_mul_le_self m exponentBit
    have less : shift m * exponentBit ≤ m / exponentBit * exponentBit := Nat.mul_le_mul_right _ (Nat.sub_le ..)
    omega
  rw [significand]
  omega

/-- A significand has 53 bits, or fewer where nothing is shifted. -/
theorem significand_bounds (m : Nat) : significand m < 2 ^ 53 ∧ (shift m = 0 ∨ 2 ^ 52 ≤ significand m) := by
  have parts := Nat.div_add_mod m exponentBit
  have less : m % exponentBit < exponentBit := Nat.mod_lt m (by decide)
  have bit : exponentBit = 2 ^ 52 := rfl
  rw [significand, shift]
  rw [bit] at parts less ⊢
  omega

theorem log2_units (m : Nat) : (units m).log2 - 52 = shift m := by
  obtain ⟨less, low | normal⟩ := significand_bounds m
  · have same : units m = significand m := by
      rw [units, low]
      exact Nat.mul_one _
    by_cases zero : significand m = 0
    · rw [same, zero, low]
      rfl
    · have small : (significand m).log2 < 53 := (Nat.log2_lt zero).2 less
      rw [same, low]
      omega
  · have bottom : 2 ^ 52 * 2 ^ shift m ≤ significand m * 2 ^ shift m := Nat.mul_le_mul_right _ normal
    have top : significand m * 2 ^ shift m < 2 ^ 53 * 2 ^ shift m :=
      Nat.mul_lt_mul_of_pos_right less (Nat.two_pow_pos _)
    have some : significand m * 2 ^ shift m ≠ 0 := by
      have := Nat.two_pow_pos (shift m)
      omega
    rw [← Nat.pow_add] at bottom top
    have log : (significand m * 2 ^ shift m).log2 = 52 + shift m := by
      rw [Nat.log2_eq_iff some, show 52 + shift m + 1 = 53 + shift m by omega]
      exact ⟨bottom, top⟩
    rw [units, Nat.pow_eq, log]
    omega

/-- The nearest magnitude to one that is a float is this float. -/
theorem nearest_of_units {n d : Nat} (finite : m < infinityMagnitude) (positive : 0 < d)
    (exact : n * unitsPerOne = units m * d) : nearest n d = m := by
  have quotient : n * unitsPerOne / d = units m := by rw [exact, Nat.mul_div_cancel _ positive]
  have parts : n * unitsPerOne = significand m * (d * Nat.pow 2 (shift m)) := by
    rw [exact, units, Nat.mul_assoc, Nat.mul_comm d]
  have scale : 0 < d * Nat.pow 2 (shift m) := Nat.mul_pos positive (Nat.two_pow_pos _)
  simp only [nearest, quotient, log2_units]
  rw [parts, roundDiv_mul_self scale, shift_significand]
  exact Nat.min_eq_left (Nat.le_of_lt finite)

/-! ## Decimals -/

/-- Within the bounds on its exponent a decimal is rounded as the fraction that it is. -/
theorem ofDecimal_of_bounds {n : Nat} {e : Int} (some : n ≠ 0)
    (low : -330 ≤ ((Nat.toDigits 10 n).length : Int) + e) (high : ((Nat.toDigits 10 n).length : Int) + e ≤ 310) :
    ofDecimal n e = nearest (n * 10 ^ e.toNat) (10 ^ (-e).toNat) := by
  have small : ¬ ((Nat.toDigits 10 n).length : Int) + e < -330 := by omega
  have large : ¬ ((Nat.toDigits 10 n).length : Int) + e > 310 := by omega
  simp only [ofDecimal, some, small, large, decide_false, Bool.or_false, Bool.false_eq_true, if_false, Nat.pow_eq]
  split
  · next natural =>
    have none : (-e).toNat = 0 := by omega
    rw [none, Nat.pow_zero]
  · next negative =>
    have none : e.toNat = 0 := by omega
    rw [none, Nat.pow_zero, Nat.mul_one]

/-- Zeros at the end of the digits may be counted by the exponent. -/
theorem ofDecimal_mul_pow (n j : Nat) (e : Int) : ofDecimal (n * 10 ^ j) e = ofDecimal n (e + j) := by
  by_cases zero : n = 0
  · simp [ofDecimal, zero]
  have positive : 0 < n := Nat.pos_of_ne_zero zero
  have some : n * 10 ^ j ≠ 0 := Nat.mul_ne_zero zero (Nat.pos_iff_ne_zero.1 (Nat.pow_pos (by decide)))
  have size : ((Nat.toDigits 10 (n * 10 ^ j)).length : Int) + e = (Nat.toDigits 10 n).length + (e + j) := by
    rw [Text.toDigits_mul_pow positive, List.length_append, List.length_replicate]
    omega
  by_cases bounds : -330 ≤ ((Nat.toDigits 10 n).length : Int) + (e + j) ∧
      ((Nat.toDigits 10 n).length : Int) + (e + j) ≤ 310
  · rw [ofDecimal_of_bounds some (size ▸ bounds.1) (size ▸ bounds.2), ofDecimal_of_bounds zero bounds.1 bounds.2]
    -- both quotients, by what the larger numerator has more
    have more : n * 10 ^ j * 10 ^ e.toNat = n * 10 ^ (e + j).toNat * 10 ^ (j + e.toNat - (e + j).toNat) := by
      rw [Nat.mul_assoc, Nat.mul_assoc, ← Nat.pow_add, ← Nat.pow_add]
      congr 2
      omega
    have less : 10 ^ (-e).toNat = 10 ^ (-(e + j)).toNat * 10 ^ (j + e.toNat - (e + j).toNat) := by
      rw [← Nat.pow_add]
      congr 1
      omega
    rw [more, less, nearest_mul (Nat.pow_pos (by decide))]
  · simp only [ofDecimal, some, zero, size, decide_false, Bool.false_or]
    by_cases small : ((Nat.toDigits 10 n).length : Int) + (e + j) < -330
    · simp [small]
    · have large : ((Nat.toDigits 10 n).length : Int) + (e + j) > 310 := by omega
      simp [small, large]

end StoredProperty.Binary64
