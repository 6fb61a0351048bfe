import StoredProperty.Binary64.Shortest
import StoredProperty.Proofs.Binary64.Nearest

/-!
# Shortest digits read back

What is written for a finite magnitude is read as this magnitude: `ofDecimal_shortest`. A short number is tried before
it is taken, and where there is none, the exact expansion is not rounded at all.
-/

namespace StoredProperty.Binary64

variable {m : Nat}

/-- Digits are only taken if they are read back as the magnitude. -/
theorem ofDecimal_withPlaces? {places : Nat} {x : Decimal} (h : withPlaces? m places = some x) :
    ofDecimal x.digits x.exponent = m := by
  unfold withPlaces? at h
  extract_lets e n d low high lowReads highReads at h
  split at h
  · next taken =>
    cases h
    rw [Bool.and_eq_true] at taken
    exact beq_iff_eq.1 taken.1
  · split at h
    · next taken =>
      cases h
      exact beq_iff_eq.1 taken
    · cases h

/-! ## The exact expansion -/

theorem units_ne_zero (some : m ≠ 0) : units m ≠ 0 := by
  have parts := shift_significand m
  have normal := (significand_bounds m).2
  have significant : significand m ≠ 0 := by
    intro zero
    rcases normal with low | normal
    · rw [low, zero] at parts
      omega
    · omega
  exact Nat.mul_ne_zero significant (Nat.pos_iff_ne_zero.1 (Nat.two_pow_pos _))

/-- A finite magnitude is less than `2 ^ 1024`, in units of `2 ^ -1074`. -/
theorem units_lt (finite : m < infinityMagnitude) : units m < 2 ^ 2098 := by
  have bit : exponentBit = 2 ^ 52 := rfl
  have shifted : shift m ≤ 2045 := by
    rw [infinityMagnitude] at finite
    have high : m / exponentBit < 2047 := Nat.div_lt_of_lt_mul (Nat.mul_comm .. ▸ finite)
    rw [shift]
    omega
  calc
    units m < 2 ^ 53 * 2 ^ shift m := Nat.mul_lt_mul_of_pos_right (significand_bounds m).1 (Nat.two_pow_pos _)
    _ = 2 ^ (53 + shift m) := (Nat.pow_add ..).symm
    _ ≤ 2 ^ 2098 := Nat.pow_le_pow_right (by decide) (by omega)

theorem digits_exactDecimal (m : Nat) : (exactDecimal m).digits = units m * 5 ^ 1074 := by
  rw [exactDecimal, Nat.pow_eq]

/-- The least and the greatest number of digits of an exact expansion. -/
theorem length_exactDecimal (some : m ≠ 0) (finite : m < infinityMagnitude) :
    743 < (Nat.toDigits 10 (exactDecimal m).digits).length ∧
      (Nat.toDigits 10 (exactDecimal m).digits).length ≤ 1384 := by
  have one : 1 ≤ units m := Nat.pos_of_ne_zero (units_ne_zero some)
  rw [digits_exactDecimal]
  constructor
  · rw [← Nat.not_le, Nat.length_toDigits_le_iff (by decide) (by decide), Nat.not_lt]
    calc
      10 ^ 743 ≤ 1 * 5 ^ 1074 := by decide +kernel
      _ ≤ units m * 5 ^ 1074 := Nat.mul_le_mul_right _ one
  · rw [Nat.length_toDigits_le_iff (by decide) (by decide)]
    calc
      units m * 5 ^ 1074 < 2 ^ 2098 * 5 ^ 1074 :=
        Nat.mul_lt_mul_of_pos_right (units_lt finite) (Nat.pow_pos (by decide))
      _ ≤ 10 ^ 1384 := by decide +kernel

theorem five_mul_two (n k : Nat) : n * 5 ^ k * 2 ^ k = n * 10 ^ k := by
  rw [Nat.mul_assoc, ← Nat.mul_pow]

/-- All the digits of a magnitude are read back as it. -/
theorem ofDecimal_exactDecimal (some : m ≠ 0) (finite : m < infinityMagnitude) :
    ofDecimal (exactDecimal m).digits (exactDecimal m).exponent = m := by
  obtain ⟨least, most⟩ := length_exactDecimal some finite
  have exponent : (exactDecimal m).exponent = -1074 := rfl
  have digits : (exactDecimal m).digits ≠ 0 := by
    intro zero
    rw [zero, Nat.toDigits_zero] at least
    simp at least
  rw [ofDecimal_of_bounds digits (by omega) (by omega), exponent, digits_exactDecimal]
  refine nearest_of_units finite (Nat.pow_pos (by decide)) ?_
  have none : (-1074 : Int).toNat = 0 := rfl
  have all : (-(-1074) : Int).toNat = 1074 := rfl
  rw [none, all, Nat.pow_zero, Nat.mul_one, unitsPerOne, Nat.pow_eq, five_mul_two]

/-- **The shortest digits are read back.** -/
theorem ofDecimal_shortest (some : m ≠ 0) (finite : m < infinityMagnitude) :
    ofDecimal (shortest m).digits (shortest m).exponent = m := by
  rw [shortest]
  cases found : (List.range 17).findSome? fun i => withPlaces? m (i + 1) with
  | none => exact ofDecimal_exactDecimal some finite
  | some x =>
    obtain ⟨i, -, reads⟩ := List.exists_of_findSome?_eq_some found
    exact ofDecimal_withPlaces? reads

end StoredProperty.Binary64
