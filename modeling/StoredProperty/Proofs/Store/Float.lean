import StoredProperty.Proofs.Store.Integer

/-!
# Values kept as floats

A value may be stored again as the float that it reads as. It then reads as true just as before, unless it is a text,
and as the same integer where the float can hold it (`HeldByFloat`). An integer that is read through a float is rounded
and brought back into the range; this keeps the order, moves it by 512 at most, and changes nothing a second time:
`StoredValue.readings_through_float`.
-/

namespace StoredProperty

open Text Binary64

namespace StoredValue

/-- The value stored as the float that it reads as. -/
def toFloat (v : StoredValue) : StoredValue := .float v.asFloat

/-- An integer stored as a float and read as an integer again. -/
def throughFloat (n : Int64) : Int64 := (toFloat (.int n)).asInteger

/-- The float that the value reads as is read as the same integer. A text that writes an integer is read without the
float, so it is left out. -/
inductive HeldByFloat : StoredValue → Prop
  | bool (b : Bool) : HeldByFloat (.bool b)
  | float (x : Binary64) : HeldByFloat (.float x)
  | int {n : Int64} (small : n.toInt.natAbs ≤ 2 ^ 53) : HeldByFloat (.int n)
  | string {s : String} (other : ∀ n : Int64, ¬ WritesInteger (trim s).toList n.toInt) : HeldByFloat (.string s)

/-- Only a text may be another boolean as a float. -/
theorem asBool_toFloat {v : StoredValue} (other : v.kind ≠ .string) : v.toFloat.asBool = v.asBool := by
  cases v with
  | bool b => cases b <;> decide
  | int n =>
    show (!(ofInt64 n).isZero) = (n != 0)
    rw [isZero_ofInt64]
    rfl
  | float x => rfl
  | string s => exact absurd rfl other

section

variable {m n : Int64}

theorem throughFloat_eq (n : Int64) : throughFloat n = clampInt64 (roundedInt n.toInt) := toInt64_ofInt64 n

/-- Small integers come through a float. -/
theorem throughFloat_of_natAbs_le (small : n.toInt.natAbs ≤ 2 ^ 53) : throughFloat n = n := by
  rw [throughFloat_eq, roundedInt_of_natAbs_le small, clampInt64_toInt]

/-- The order comes through a float. -/
theorem throughFloat_le_throughFloat (le : m ≤ n) : throughFloat m ≤ throughFloat n := by
  rw [throughFloat_eq, throughFloat_eq]
  exact clampInt64_le_clampInt64 (roundedInt_le_roundedInt (Int64.le_iff_toInt_le.1 le))

/-- The rounded integer, unless rounding has gone past the largest one. -/
theorem toInt_throughFloat (n : Int64) :
    (throughFloat n).toInt = min (roundedInt n.toInt) Int64.maxValue.toInt := by
  have bit : signBit = 2 ^ 63 := rfl
  have low := Int64.toInt_minValue
  have high := Int64.toInt_maxValue
  have size : (roundedInt n.toInt).natAbs ≤ signBit := by
    rw [natAbs_roundedInt]
    exact rounded_le_signBit (natAbs_toInt_le n)
  rw [throughFloat_eq, toInt_clampInt64]
  omega

/-- The second time nothing is rounded. -/
theorem throughFloat_throughFloat (n : Int64) : throughFloat (throughFloat n) = throughFloat n := by
  rw [← Int64.toInt_inj, toInt_throughFloat, toInt_throughFloat]
  rcases Int.le_total (roundedInt n.toInt) Int64.maxValue.toInt with inside | past
  · rw [Int.min_eq_left inside, roundedInt_roundedInt (natAbs_toInt_le n), Int.min_eq_left inside]
  · -- the largest integer is rounded past itself, as the smaller one was
    have larger : roundedInt n.toInt ≤ roundedInt Int64.maxValue.toInt := roundedInt_le_roundedInt n.toInt_le
    rw [Int.min_eq_right past, Int.min_eq_right (Int.le_trans past larger)]

/-- No integer is moved further than 512 by a float. -/
theorem throughFloat_near (n : Int64) : ((throughFloat n).toInt - n.toInt).natAbs ≤ 512 := by
  have near := roundedInt_near (natAbs_toInt_le n)
  have top := n.toInt_le
  rw [toInt_throughFloat]
  omega

end

/-- What a float holds is the same integer. -/
theorem asInteger_toFloat {v : StoredValue} (held : HeldByFloat v) : v.toFloat.asInteger = v.asInteger := by
  cases held with
  | bool b => cases b <;> decide +kernel
  | float x => rfl
  | int small => exact throughFloat_of_natAbs_le small
  | @string s other =>
    have unread : int64? (trimChars s.toList) = none := by
      refine Option.eq_none_iff_forall_ne_some.2 fun n read => ?_
      have written := int64?_eq_some_iff.1 read
      rw [← String.toList_ofList (l := trimChars s.toList)] at written
      exact other n written
    show (saidFloat (trimChars s.toList)).toInt64 = saidInteger (trimChars s.toList)
    rw [saidInteger, unread, saidFloat]
    cases Binary64.read? (trimChars s.toList) with
    | none => decide +kernel
    | some x => rfl

/-- **What a value reads as is kept by the float that it reads as.** The truth value is kept of all but texts; the
integer of truth values, floats, integers of 53 binary digits and texts that are no integers of 64 bits. Of any integer
the integer that is read through the float is near to it, keeps its order among the others, and is then kept itself. -/
theorem readings_through_float :
    (∀ v : StoredValue, v.kind ≠ .string → v.toFloat.asBool = v.asBool) ∧
    (∀ v, HeldByFloat v → v.toFloat.asInteger = v.asInteger) ∧
    (∀ m n, m ≤ n → throughFloat m ≤ throughFloat n) ∧
    (∀ n, throughFloat (throughFloat n) = throughFloat n) ∧
    ∀ n, ((throughFloat n).toInt - n.toInt).natAbs ≤ 512 ∧
      Int64.minValue ≤ throughFloat n ∧ throughFloat n ≤ Int64.maxValue := by
  refine ⟨fun v => asBool_toFloat, fun v => asInteger_toFloat, fun m n => throughFloat_le_throughFloat,
    throughFloat_throughFloat, fun n => ⟨throughFloat_near n, ?_, ?_⟩⟩
  · exact Int64.le_iff_toInt_le.2 (throughFloat n).minValue_le_toInt
  · exact Int64.le_iff_toInt_le.2 (throughFloat n).toInt_le

/-- A text of a float past the range, the first integer that is rounded, and the largest one. -/
theorem readings_through_float_large :
    HeldByFloat (.string " 1e300 ") ∧ (toFloat (.string " 1e300 ")).asInteger = Int64.maxValue ∧
      (toFloat (.int 9007199254740993)).asBool = true ∧
      throughFloat 9007199254740993 ≤ throughFloat Int64.maxValue := by
  have other : HeldByFloat (.string " 1e300 ") := by
    refine .string fun n written => ?_
    have unread : int64? (trim " 1e300 ").toList = none := by decide +kernel
    rw [int64?_eq_some_iff.2 written] at unread
    cases unread
  obtain ⟨bools, integers, ordered, -⟩ := readings_through_float
  refine ⟨other, ?_, bools (.int 9007199254740993) (by decide), ordered _ _ (by decide)⟩
  rw [integers _ other]
  decide +kernel

/-- The bound is sharp: half of the largest step lies at the lower end of the range, and goes to the even word. -/
example : throughFloat (Int64.minValue + 512) = Int64.minValue := by decide +kernel

end StoredValue

end StoredProperty
