/-!
# Decimal integers as text

Digits are the ASCII digits. A signed integer is an optional sign in front of at least one digit; it is read exactly,
and reading it as a 64-bit integer fails when it is out of range.
-/

namespace StoredProperty.Text

/-- The number that a list of digits writes in base ten. -/
def digitsValue (ds : List Char) : Nat := ds.foldl (fun n d => 10 * n + (d.toNat - '0'.toNat)) 0

/-- The number that a nonempty list of digits writes. -/
def natural? (ds : List Char) : Option Nat :=
  if ds.isEmpty || !ds.all Char.isDigit then none else some (digitsValue ds)

/-- A number that may have a plus sign in front. -/
def unsigned? : List Char → Option Nat
  | '+' :: ds => natural? ds
  | ds => natural? ds

def integer? : List Char → Option Int
  | '+' :: ds => (natural? ds).map Int.ofNat
  | '-' :: ds => (natural? ds).map fun n => -Int.ofNat n
  | ds => (natural? ds).map Int.ofNat

/-- An integer as a 64-bit word, if it is in range. -/
def toInt64? (i : Int) : Option Int64 :=
  if Int64.minValue.toInt ≤ i ∧ i ≤ Int64.maxValue.toInt then some (Int64.ofInt i) else none

/-- The nearest 64-bit word: an integer out of range goes to the end of the range on its side. -/
def clampInt64 (i : Int) : Int64 :=
  if i < Int64.minValue.toInt then Int64.minValue
  else if Int64.maxValue.toInt < i then Int64.maxValue
  else Int64.ofInt i

def int64? (cs : List Char) : Option Int64 := (integer? cs).bind toInt64?

theorem toInt64?_eq_some_iff {i : Int} {n : Int64} : toInt64? i = some n ↔ n.toInt = i := by
  unfold toInt64?
  constructor
  · intro h
    split at h
    · next inside =>
      cases h
      exact Int64.toInt_ofInt_of_le inside.1 (Int.lt_add_one_iff.2 inside.2)
    · cases h
  · rintro rfl
    rw [if_pos ⟨n.minValue_le_toInt, n.toInt_le⟩, Int64.ofInt_toInt]

/-- An integer is no word when it is out of range. -/
theorem toInt64?_eq_none_iff {i : Int} : toInt64? i = none ↔ i < Int64.minValue.toInt ∨ Int64.maxValue.toInt < i := by
  unfold toInt64?
  generalize Int64.minValue.toInt = low, Int64.maxValue.toInt = high
  split
  · next inside => simp; omega
  · next outside => simp; omega

end StoredProperty.Text
