import StoredProperty.Text.Decimal

/-!
# Binary64 words

A 64-bit word in the IEEE 754 interchange format, kept as bits so that every word is told from every other. A
finite word stands for `± significand * 2 ^ shift / 2 ^ 1074`, with both numbers natural. Conversions from and to
64-bit integers are exact where they can be; otherwise the nearest word (a tie goes to the even one), and the
integer towards zero (at the end of the range when it is out of range, zero for a NaN).
-/

namespace StoredProperty

structure Binary64 where
  bits : UInt64
  deriving DecidableEq

namespace Binary64

/-- The weight of the sign. -/
def signBit : Nat := Nat.pow 2 63

/-- The weight of the last bit of the exponent, behind which the digits stand. -/
def exponentBit : Nat := Nat.pow 2 52

/-- How many of the least magnitude make one. -/
def unitsPerOne : Nat := Nat.pow 2 1074

def isNegative (x : Binary64) : Bool := signBit ≤ x.bits.toNat

/-- The bits without the sign. -/
def magnitude (x : Binary64) : Nat := x.bits.toNat % signBit

/-- The magnitude of both infinities. -/
def infinityMagnitude : Nat := 2047 * exponentBit

def isNaN (x : Binary64) : Bool := infinityMagnitude < x.magnitude

def isInfinite (x : Binary64) : Bool := x.magnitude == infinityMagnitude

def isZero (x : Binary64) : Bool := x.magnitude == 0

/-- The word with the other sign; the rest of the bits stay, also in a NaN. -/
def neg (x : Binary64) : Binary64 := ⟨x.bits ^^^ 0x8000000000000000⟩

instance : Neg Binary64 := ⟨neg⟩

def ofMagnitude (m : Nat) : Binary64 := ⟨UInt64.ofNat m⟩

def zero : Binary64 := ofMagnitude 0

def one : Binary64 := ofMagnitude (1023 * exponentBit)

def infinity : Binary64 := ofMagnitude infinityMagnitude

def nan : Binary64 := ofMagnitude (infinityMagnitude + exponentBit / 2)

/-- The exponent of a magnitude above the least one: `0` also for the words below the normal ones. -/
def shift (m : Nat) : Nat := m / exponentBit - 1

/-- The digits of a magnitude before they are shifted. -/
def significand (m : Nat) : Nat := m - shift m * exponentBit

/-- A finite magnitude in units of `2 ^ -1074`. -/
def units (m : Nat) : Nat := significand m * Nat.pow 2 (shift m)

/-- Equality of the numbers: a NaN equals nothing, and both zeros are equal. -/
def equal (x y : Binary64) : Bool :=
  !x.isNaN && !y.isNaN && (x.bits == y.bits || x.isZero && y.isZero)

/-- A quotient rounded to the nearest natural number, a tie to the even one. -/
def roundDiv (n d : Nat) : Nat :=
  let q := n / d
  let twice := 2 * (n % d)
  if twice < d then q else if d < twice then q + 1 else q + q % 2

/-- The magnitude nearest to `n / d`, a tie to the even one: 53 binary digits are kept of the quotient in units of
`2 ^ -1074`, fewer of a small one, and what is too large goes to infinity. -/
def nearest (n d : Nat) : Nat :=
  let n := n * unitsPerOne
  let shift := (n / d).log2 - 52
  min (shift * exponentBit + roundDiv n (d * Nat.pow 2 shift)) infinityMagnitude

/-- A magnitude behind a sign. -/
def signed (negative : Bool) (m : Nat) : Binary64 :=
  if negative then -ofMagnitude m else ofMagnitude m

def ofInt64 (i : Int64) : Binary64 := signed (i.toInt < 0) (nearest i.toInt.natAbs 1)

/-- Towards zero; out of range at the end of the range, and zero for a NaN. -/
def toInt64 (x : Binary64) : Int64 :=
  if x.isNaN then 0
  else
    let n := Int.ofNat (if x.isInfinite then signBit else units x.magnitude / unitsPerOne)
    Text.clampInt64 (if x.isNegative then -n else n)

end Binary64

end StoredProperty
