import StoredProperty.Proofs.Binary64.Conversion
import StoredProperty.Store.Value

/-!
# Texts that write integers

A text that writes an integer, with white space around it, is read as this integer, brought into the range of integers:
`StoredValue.asInteger_of_decimal`. In the range it is read exactly. Past the range it is read as a word instead, which
is rounded, and may be infinite, but does not come back into the range; so the word is brought to the same end.
-/

namespace StoredProperty

open Text Binary64

/-- Past the end of the range all integers of a sign are clamped alike. -/
theorem Text.clampInt64_behind {negative : Bool} {m n : Nat} (hm : signBit ≤ m) (hn : signBit ≤ n) :
    clampInt64 (behind negative m) = clampInt64 (behind negative n) := by
  have bit : signBit = 2 ^ 63 := rfl
  have low := Int64.toInt_minValue
  have high := Int64.toInt_maxValue
  rw [← Int64.toInt_inj, toInt_clampInt64, toInt_clampInt64]
  cases negative with
  | false => simp only [behind, Bool.false_eq_true, if_false]; omega
  | true => simp only [behind, if_true]; omega

theorem Text.clampInt64_of_toInt64?_eq_some {i : Int} {n : Int64} (inside : toInt64? i = some n) : clampInt64 i = n := by
  rw [← toInt64?_eq_some_iff.1 inside, clampInt64_toInt]

namespace StoredValue

variable {cs : List Char} {i : Int}

/-- What a decimal integer says. -/
theorem saidInteger_of_writesInteger (written : WritesInteger cs i) : saidInteger cs = clampInt64 i := by
  have number : integer? cs = some i := integer?_eq_some_iff.2 written
  rw [saidInteger, int64?, number, Option.bind_some]
  cases inRange : toInt64? i with
  | some n => exact (clampInt64_of_toInt64?_eq_some inRange).symm
  | none =>
    have outside := toInt64?_eq_none_iff.1 inRange
    have low := Int64.toInt_minValue
    have high := Int64.toInt_maxValue
    have large : signBit ≤ i.natAbs := by
      have bit : signBit = 2 ^ 63 := rfl
      omega
    obtain ⟨negative, sign, word⟩ := read?_of_writesInteger written
    obtain ⟨finite, past⟩ := ofDecimal_of_signBit_le large
    calc
      _ = (signed negative (ofDecimal i.natAbs 0)).toInt64 := by rw [word]
      _ = clampInt64 (behind negative (whole (ofDecimal i.natAbs 0))) := toInt64_signed finite negative
      _ = clampInt64 (behind negative i.natAbs) := clampInt64_behind past large
      _ = clampInt64 i := by rw [← sign]

/-- **A decimal integer is read as the integer it writes, or as the end of the range it lies past.** There may be any
number of digits and of zeros in front of them. So a text that writes a larger integer is never read as a smaller one. -/
theorem asInteger_of_decimal {s : String} {v : Int} (written : WritesInteger (trim s).toList v) :
    (Int64.minValue.toInt ≤ v → v ≤ Int64.maxValue.toInt → (asInteger (.string s)).toInt = v) ∧
    (Int64.maxValue.toInt < v → asInteger (.string s) = Int64.maxValue) ∧
    (v < Int64.minValue.toInt → asInteger (.string s) = Int64.minValue) ∧
    ∀ t w, WritesInteger (trim t).toList w → v ≤ w → asInteger (.string s) ≤ asInteger (.string t) := by
  have read {s : String} {v : Int} (written : WritesInteger (trim s).toList v) :
      asInteger (.string s) = clampInt64 v := by
    rw [trim, String.toList_ofList] at written
    exact saidInteger_of_writesInteger written
  have low := Int64.toInt_minValue
  have high := Int64.toInt_maxValue
  refine ⟨fun above below => ?_, fun past => ?_, fun past => ?_, fun t w other le => ?_⟩
  · rw [read written, toInt_clampInt64]
    omega
  · rw [read written, ← Int64.toInt_inj, toInt_clampInt64]
    omega
  · rw [read written, ← Int64.toInt_inj, toInt_clampInt64]
    omega
  · rw [read written, read other]
    exact clampInt64_le_clampInt64 le

/-- One past either end, where the nearest words are the ends themselves or past them. -/
theorem asInteger_of_decimal_pastEnds :
    WritesInteger (trim " -0009223372036854775809\n").toList (-9223372036854775809) ∧
      WritesInteger (trim "+9223372036854775808").toList 9223372036854775808 ∧
      asInteger (.string " -0009223372036854775809\n") = Int64.minValue ∧
      asInteger (.string "+9223372036854775808") = Int64.maxValue ∧
      asInteger (.string " -0009223372036854775809\n") ≤ asInteger (.string "+9223372036854775808") := by
  have low : WritesInteger (trim " -0009223372036854775809\n").toList (-9223372036854775809) :=
    integer?_eq_some_iff.1 (by decide +kernel)
  have high : WritesInteger (trim "+9223372036854775808").toList 9223372036854775808 :=
    integer?_eq_some_iff.1 (by decide +kernel)
  obtain ⟨-, -, least, ordered⟩ := asInteger_of_decimal low
  obtain ⟨-, greatest, -⟩ := asInteger_of_decimal high
  exact ⟨low, high, least (by decide), greatest (by decide), ordered _ _ high (by decide)⟩

end StoredValue

end StoredProperty
