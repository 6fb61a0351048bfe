import StoredProperty.Binary64.Reader

/-!
# The shortest digits that read back

A finite number is written with the fewest digits that `ofDecimal` reads back to it; of two such numbers the nearer
one is written, and of two equally near ones the larger. The candidates with a given number of digits are the two
neighbours of the value on that decimal grid. Should no short number read back, the exact decimal expansion does.
-/

namespace StoredProperty.Binary64

/-- The number `digits * 10 ^ exponent`. -/
structure Decimal where
  digits : Nat
  exponent : Int
  deriving DecidableEq

/-- The exponent `k` with `10 ^ (k - 1) ≤ value < 10 ^ k`, of a finite magnitude that is not zero. -/
def decimalExponent (m : Nat) : Int :=
  Int.ofNat (Nat.toDigits 10 (units m * Nat.pow 10 330 / unitsPerOne)).length - 330

/-- The number with `places` digits that reads back to the magnitude, if there is one. -/
def withPlaces? (m : Nat) (places : Nat) : Option Decimal :=
  let e := decimalExponent m - places
  let n := if 0 ≤ e then units m else units m * Nat.pow 10 (-e).toNat
  let d := if 0 ≤ e then unitsPerOne * Nat.pow 10 e.toNat else unitsPerOne
  let low := n / d
  let high := low + 1
  let lowReads := ofDecimal low e == m
  let highReads := ofDecimal high e == m
  if lowReads && (!highReads || 2 * (n % d) < d) then some ⟨low, e⟩
  else if highReads then some ⟨high, e⟩
  else none

/-- Every digit of the value: it is a whole number of units of `10 ^ -1074`. -/
def exactDecimal (m : Nat) : Decimal := ⟨units m * Nat.pow 5 1074, -1074⟩

def shortest (m : Nat) : Decimal :=
  ((List.range 17).findSome? fun i => withPlaces? m (i + 1)).getD (exactDecimal m)

end StoredProperty.Binary64
