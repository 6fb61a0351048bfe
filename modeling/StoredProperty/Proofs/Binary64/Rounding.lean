import StoredProperty.Proofs.Binary64.Nearest

/-!
# Rounding

Magnitudes stand for numbers in their own order (`units_le_units`), and rounding keeps the order of quotients
(`nearest_le_nearest`). A quotient is rounded in steps, of which it keeps 53 binary digits at most; so it moves by half
a step (`nearest_near`), and not at all when it is a number of steps. A whole number is rounded to a whole number
(`rounded`): to itself up to `2 ^ 53`, and below `2 ^ 63` to one that is 512 away at most (`rounded_near`).
-/

namespace StoredProperty.Binary64

/-! ## Quotients -/

/-- A quotient is rounded down or up, to the nearer side. -/
theorem roundDiv_cases (n d : Nat) :
    (roundDiv n d = n / d ∧ 2 * (n % d) ≤ d) ∨ (roundDiv n d = n / d + 1 ∧ d ≤ 2 * (n % d)) := by
  rw [roundDiv]
  split
  · next below => exact .inl ⟨rfl, by omega⟩
  · split
    · next above => exact .inr ⟨rfl, by omega⟩
    · -- a tie, which goes to the even one
      rcases Nat.mod_two_eq_zero_or_one (n / d) with even | odd
      · exact .inl ⟨by omega, by omega⟩
      · exact .inr ⟨by omega, by omega⟩

/-- A quotient is moved by half of one at most. -/
theorem roundDiv_near (n : Nat) {d : Nat} (positive : 0 < d) :
    2 * (roundDiv n d * d) ≤ 2 * n + d ∧ 2 * n ≤ 2 * (roundDiv n d * d) + d := by
  have parts := Nat.div_add_mod' n d
  have rest : n % d < d := Nat.mod_lt n positive
  rcases roundDiv_cases n d with ⟨down, low⟩ | ⟨up, high⟩
  · rw [down]
    omega
  · rw [up, Nat.succ_mul (n / d)]
    omega

/-- Rounding a quotient keeps the order. -/
theorem roundDiv_le_roundDiv {n n' : Nat} (le : n ≤ n') (d : Nat) : roundDiv n d ≤ roundDiv n' d := by
  have quotients : n / d ≤ n' / d := Nat.div_le_div_right le
  rcases Nat.lt_or_eq_of_le quotients with less | same
  · have low := roundDiv_cases n d
    have high := roundDiv_cases n' d
    omega
  · have parts := Nat.div_add_mod' n d
    have parts' := Nat.div_add_mod' n' d
    have rests : n % d ≤ n' % d := by
      rw [same] at parts
      omega
    simp only [roundDiv, same]
    grind

/-! ## The order of magnitudes -/

theorem unitsPerOne_eq : unitsPerOne = 2 ^ 1074 := by rw [unitsPerOne, Nat.pow_eq]

theorem unitsPerOne_pos : 0 < unitsPerOne := by
  rw [unitsPerOne_eq]
  exact Nat.two_pow_pos _

/-- A magnitude by its exponent and its digits, of which there may also be the least number of the next exponent. -/
theorem units_add {s q : Nat} (most : q ≤ 2 ^ 53) (least : s = 0 ∨ 2 ^ 52 ≤ q) :
    units (s * exponentBit + q) = q * 2 ^ s := by
  have bit : exponentBit = 2 ^ 52 := rfl
  rcases Nat.lt_or_eq_of_le most with less | rfl
  · have exponent : shift (s * exponentBit + q) = s := by
      rw [shift, bit]
      omega
    have digits : significand (s * exponentBit + q) = q := by
      rw [significand, exponent]
      omega
    rw [units, exponent, digits, Nat.pow_eq]
  · -- the least digits of the next exponent
    have exponent : shift (s * exponentBit + 2 ^ 53) = s + 1 := by
      rw [shift, bit]
      omega
    have digits : significand (s * exponentBit + 2 ^ 53) = 2 ^ 52 := by
      rw [significand, exponent, bit]
      omega
    rw [units, exponent, digits, Nat.pow_eq, ← Nat.pow_add, ← Nat.pow_add]
    congr 1
    omega

/-- A larger magnitude stands for a larger number. -/
theorem units_le_units {m m' : Nat} (le : m ≤ m') : units m ≤ units m' := by
  have parts := shift_significand m
  have parts' := shift_significand m'
  have shifts : shift m ≤ shift m' := Nat.sub_le_sub_right (Nat.div_le_div_right le) 1
  rcases Nat.lt_or_eq_of_le shifts with less | same
  · have normal : 2 ^ 52 ≤ significand m' := (significand_bounds m').2.resolve_left (by omega)
    calc
      units m ≤ 2 ^ 53 * 2 ^ shift m := Nat.mul_le_mul_right _ (Nat.le_of_lt (significand_bounds m).1)
      _ = 2 ^ 52 * 2 ^ (shift m + 1) := by rw [← Nat.pow_add, ← Nat.pow_add]; congr 1; omega
      _ ≤ 2 ^ 52 * 2 ^ shift m' := Nat.mul_le_mul_left _ (Nat.pow_le_pow_right (by decide) less)
      _ ≤ units m' := Nat.mul_le_mul_right _ normal
  · have digits : significand m ≤ significand m' := by
      rw [same] at parts
      omega
    rw [units, units, same]
    exact Nat.mul_le_mul_right _ digits

/-! ## The nearest magnitude -/

/-- The exponent of the steps in which `n / d` is rounded. -/
def stepExponent (n d : Nat) : Nat := (n * unitsPerOne / d).log2 - 52

/-- The digits that are left of `n / d`, in steps. -/
def steps (n d : Nat) : Nat := roundDiv (n * unitsPerOne) (d * 2 ^ stepExponent n d)

section

variable {n n' d : Nat}

theorem nearest_eq (n d : Nat) :
    nearest n d = min (stepExponent n d * exponentBit + steps n d) infinityMagnitude := rfl

/-- The leading 53 binary digits of a number, or all of them. -/
theorem leading_bounds (t : Nat) :
    t / 2 ^ (t.log2 - 52) < 2 ^ 53 ∧ (t.log2 - 52 = 0 ∨ 2 ^ 52 ≤ t / 2 ^ (t.log2 - 52)) := by
  have power : 0 < 2 ^ (t.log2 - 52) := Nat.two_pow_pos _
  rw [Nat.div_lt_iff_lt_mul power, Nat.le_div_iff_mul_le power, ← Nat.pow_add, ← Nat.pow_add]
  constructor
  · exact Nat.lt_of_lt_of_le Nat.lt_log2_self (Nat.pow_le_pow_right (by decide) (by omega))
  · rcases Nat.eq_zero_or_pos (t.log2 - 52) with low | high
    · exact .inl low
    · have some : t ≠ 0 := by
        rintro rfl
        simp at high
      rw [show 52 + (t.log2 - 52) = t.log2 by omega]
      exact .inr (Nat.log2_self_le some)

/-- The steps fill a significand, unless the number is subnormal. -/
theorem steps_bounds (n d : Nat) : steps n d ≤ 2 ^ 53 ∧ (stepExponent n d = 0 ∨ 2 ^ 52 ≤ steps n d) := by
  have leading : n * unitsPerOne / (d * 2 ^ stepExponent n d) = n * unitsPerOne / d / 2 ^ stepExponent n d :=
    (Nat.div_div_eq_div_mul ..).symm
  obtain ⟨most, least⟩ := leading_bounds (n * unitsPerOne / d)
  have near := roundDiv_cases (n * unitsPerOne) (d * 2 ^ stepExponent n d)
  rw [leading] at near
  rw [← stepExponent] at most least
  rw [steps]
  omega

theorem log2_le_log2 {t t' : Nat} (le : t ≤ t') : t.log2 ≤ t'.log2 := by
  by_cases zero : t = 0
  · rw [zero, Nat.log2_zero]
    exact Nat.zero_le _
  · have some : t' ≠ 0 := by omega
    exact (Nat.le_log2 some).2 (Nat.le_trans (Nat.log2_self_le zero) le)

/-- A finite result stands for its digits in steps. -/
theorem units_nearest (finite : nearest n d < infinityMagnitude) :
    units (nearest n d) = steps n d * 2 ^ stepExponent n d := by
  have small : stepExponent n d * exponentBit + steps n d ≤ infinityMagnitude := by
    rw [nearest_eq] at finite
    omega
  obtain ⟨most, least⟩ := steps_bounds n d
  rw [nearest_eq, Nat.min_eq_left small, units_add most least]

/-- **Rounding keeps the order.** -/
theorem nearest_le_nearest (le : n ≤ n') (d : Nat) : nearest n d ≤ nearest n' d := by
  have units : n * unitsPerOne ≤ n' * unitsPerOne := Nat.mul_le_mul_right _ le
  have exponents : stepExponent n d ≤ stepExponent n' d :=
    Nat.sub_le_sub_right (log2_le_log2 (Nat.div_le_div_right units)) 52
  have below : stepExponent n d * exponentBit + steps n d ≤ stepExponent n' d * exponentBit + steps n' d := by
    rcases Nat.lt_or_eq_of_le exponents with less | same
    · -- the most digits in the smaller steps are the least ones in the next
      have most := (steps_bounds n d).1
      have least := (steps_bounds n' d).2.resolve_left (by omega)
      have bit : exponentBit = 2 ^ 52 := rfl
      rw [bit]
      omega
    · rw [steps, steps, same]
      exact Nat.add_le_add_left (roundDiv_le_roundDiv units _) _
  exact Nat.le_min.2 ⟨Nat.le_trans (Nat.min_le_left ..) below, Nat.min_le_right ..⟩

/-- A finite result is off by half a step at most. -/
theorem nearest_near (positive : 0 < d) (finite : nearest n d < infinityMagnitude) :
    2 * (units (nearest n d) * d) ≤ 2 * (n * unitsPerOne) + d * 2 ^ stepExponent n d ∧
      2 * (n * unitsPerOne) ≤ 2 * (units (nearest n d) * d) + d * 2 ^ stepExponent n d := by
  have scale : 0 < d * 2 ^ stepExponent n d := Nat.mul_pos positive (Nat.two_pow_pos _)
  have value : units (nearest n d) * d = steps n d * (d * 2 ^ stepExponent n d) := by
    rw [units_nearest finite, Nat.mul_assoc, Nat.mul_comm d]
  rw [value]
  exact roundDiv_near _ scale

/-- What is a number of steps is not rounded at all. -/
theorem units_nearest_of_dvd (positive : 0 < d) (finite : nearest n d < infinityMagnitude)
    (divides : d * 2 ^ stepExponent n d ∣ n * unitsPerOne) : units (nearest n d) * d = n * unitsPerOne := by
  obtain ⟨q, parts⟩ := divides
  have scale : 0 < d * 2 ^ stepExponent n d := Nat.mul_pos positive (Nat.two_pow_pos _)
  have exact : steps n d = q := by
    rw [steps, parts, Nat.mul_comm, roundDiv_mul_self scale]
  rw [units_nearest finite, exact, parts, Nat.mul_assoc, Nat.mul_comm d, Nat.mul_comm q]

end

/-! ## Whole numbers -/

section

variable {n n' : Nat}

/-- A power of two is a float: its significand is the least one. -/
theorem nearest_two_pow {k : Nat} (small : k < 1024) : nearest (2 ^ k) 1 = (1022 + k) * exponentBit + 2 ^ 52 := by
  have bit : exponentBit = 2 ^ 52 := rfl
  have finite : (1022 + k) * exponentBit + 2 ^ 52 < infinityMagnitude := by
    rw [infinityMagnitude, bit]
    omega
  refine nearest_of_units finite Nat.one_pos ?_
  rw [units_add (by decide) (.inr (Nat.le_refl _)), unitsPerOne_eq, Nat.mul_one, ← Nat.pow_add, ← Nat.pow_add]
  congr 1
  omega

/-- No integer in range is rounded to infinity. -/
theorem nearest_lt_infinity (small : n ≤ signBit) : nearest n 1 < infinityMagnitude := by
  have top : nearest signBit 1 = (1022 + 63) * exponentBit + 2 ^ 52 := nearest_two_pow (by decide)
  calc
    nearest n 1 ≤ nearest signBit 1 := nearest_le_nearest small 1
    _ < infinityMagnitude := by rw [top]; decide

/-- The steps for a number of `k` binary digits; those for 53 digits are ones. -/
theorem stepExponent_le {k : Nat} (less : n < 2 ^ k) : stepExponent n 1 ≤ k + 1021 := by
  have whole : n * unitsPerOne / 1 < 2 ^ (k + 1074) := by
    rw [Nat.div_one, Nat.pow_add, unitsPerOne_eq]
    exact Nat.mul_lt_mul_of_pos_right less (Nat.two_pow_pos _)
  rw [stepExponent]
  by_cases zero : n * unitsPerOne / 1 = 0
  · rw [zero, Nat.log2_zero]
    omega
  · have log := (Nat.log2_lt zero).2 whole
    omega

/-- Nothing is lost of a whole number where the steps are ones or parts of them. -/
theorem units_nearest_of_fine (small : n ≤ signBit) (fine : stepExponent n 1 ≤ 1074) :
    units (nearest n 1) = n * unitsPerOne := by
  have divides : 1 * 2 ^ stepExponent n 1 ∣ n * unitsPerOne := by
    rw [Nat.one_mul, unitsPerOne_eq]
    exact Nat.dvd_mul_left_of_dvd (Nat.pow_dvd_pow 2 fine) n
  rw [← units_nearest_of_dvd Nat.one_pos (nearest_lt_infinity small) divides, Nat.mul_one]

/-- Whole numbers are rounded to whole numbers. -/
theorem unitsPerOne_dvd_units_nearest (small : n ≤ signBit) : unitsPerOne ∣ units (nearest n 1) := by
  rcases Nat.le_total (stepExponent n 1) 1074 with fine | coarse
  · rw [units_nearest_of_fine small fine]
    exact Nat.dvd_mul_left ..
  · rw [units_nearest (nearest_lt_infinity small), unitsPerOne_eq]
    exact Nat.dvd_mul_left_of_dvd (Nat.pow_dvd_pow 2 coarse) _

/-- The whole number that a whole number is rounded to. -/
def rounded (n : Nat) : Nat := units (nearest n 1) / unitsPerOne

theorem rounded_mul_unitsPerOne (small : n ≤ signBit) : rounded n * unitsPerOne = units (nearest n 1) :=
  Nat.div_mul_cancel (unitsPerOne_dvd_units_nearest small)

/-- Rounding keeps the order. -/
theorem rounded_le_rounded (le : n ≤ n') : rounded n ≤ rounded n' :=
  Nat.div_le_div_right (units_le_units (nearest_le_nearest le 1))

/-- Powers of two are not moved. -/
theorem rounded_two_pow {k : Nat} (small : k < 1024) : rounded (2 ^ k) = 2 ^ k := by
  rw [rounded, nearest_two_pow small, units_add (by decide) (.inr (Nat.le_refl _)), unitsPerOne_eq,
    ← Nat.pow_add, show 52 + (1022 + k) = k + 1074 by omega, Nat.pow_add, Nat.mul_div_cancel _ (Nat.two_pow_pos _)]

/-- Numbers of 53 binary digits are words, and the next one is. -/
theorem rounded_of_le (small : n ≤ 2 ^ 53) : rounded n = n := by
  rcases Nat.lt_or_eq_of_le small with less | rfl
  · have bound : n ≤ signBit := Nat.le_trans small (by decide)
    rw [rounded, units_nearest_of_fine bound (stepExponent_le less), Nat.mul_div_cancel _ unitsPerOne_pos]
  · exact rounded_two_pow (by decide)

theorem rounded_signBit : rounded signBit = signBit := rounded_two_pow (k := 63) (by decide)

/-- Rounding does not go past the end of the range, which is a power of two. -/
theorem rounded_le_signBit (small : n ≤ signBit) : rounded n ≤ signBit := by
  rw [← rounded_signBit]
  exact rounded_le_rounded small

/-- A rounded number is a word. -/
theorem rounded_rounded (small : n ≤ signBit) : rounded (rounded n) = rounded n := by
  have same : nearest (rounded n) 1 = nearest n 1 := by
    refine nearest_of_units (nearest_lt_infinity small) Nat.one_pos ?_
    rw [rounded_mul_unitsPerOne small, Nat.mul_one]
  rw [rounded, same]
  rfl

/-- **Below `2 ^ 63` rounding goes 512 away at most.** The steps there are `2 ^ 10` at most. -/
theorem rounded_near (small : n ≤ signBit) : rounded n ≤ n + 512 ∧ n ≤ rounded n + 512 := by
  rcases Nat.lt_or_eq_of_le small with less | rfl
  · have near := nearest_near Nat.one_pos (nearest_lt_infinity small)
    have coarsest : 2 ^ stepExponent n 1 ≤ 1024 * unitsPerOne := by
      rw [unitsPerOne_eq, show 1024 = 2 ^ 10 from rfl, ← Nat.pow_add]
      exact Nat.pow_le_pow_right (by decide) (stepExponent_le (k := 63) less)
    rw [← rounded_mul_unitsPerOne small, Nat.mul_one, Nat.one_mul] at near
    have low : rounded n * unitsPerOne ≤ (n + 512) * unitsPerOne := by
      rw [Nat.add_mul]
      omega
    have high : n * unitsPerOne ≤ (rounded n + 512) * unitsPerOne := by
      rw [Nat.add_mul]
      omega
    exact ⟨Nat.le_of_mul_le_mul_right low unitsPerOne_pos, Nat.le_of_mul_le_mul_right high unitsPerOne_pos⟩
  · rw [rounded_signBit]
    omega

end

end StoredProperty.Binary64
