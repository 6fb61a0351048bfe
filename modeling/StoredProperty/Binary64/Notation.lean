import StoredProperty.Binary64.Shortest

/-!
# Numbers as text

Numbers from `10 ^ -4` up to `10 ^ 16` are written with a point and at least one digit after it; all others with an
exponent, without a sign or a point unless needed. The sign of a zero is kept.
-/

namespace StoredProperty.Binary64

/-- The digits of a decimal without zeros at the end, and the exponent `k` of `0.d₁d₂… * 10 ^ k`. -/
def Decimal.normal (x : Decimal) : List Char × Int :=
  let digits := Nat.toDigits 10 x.digits
  ((digits.reverse.dropWhile (· == '0')).reverse, digits.length + x.exponent)

/-- Digits with a point: `k` digits stand in front of it. -/
def positional (digits : List Char) (k : Int) : List Char :=
  if k ≤ 0 then '0' :: '.' :: (List.replicate (-k).toNat '0' ++ digits)
  else if k.toNat < digits.length then digits.take k.toNat ++ '.' :: digits.drop k.toNat
  else digits ++ List.replicate (k.toNat - digits.length) '0' ++ ['.', '0']

/-- Digits with an exponent: one digit stands in front of the point. -/
def scientific (digits : List Char) (k : Int) : List Char :=
  let mantissa := match digits with
    | first :: second :: more => first :: '.' :: second :: more
    | short => short
  mantissa ++ 'e' :: (toString (k - 1)).toList

def isPositional (k : Int) : Bool := -4 < k && k ≤ 16

/-- A finite magnitude as text. -/
def magnitudeText (m : Nat) : List Char :=
  if m = 0 then "0.0".toList
  else
    let (digits, k) := (shortest m).normal
    if isPositional k then positional digits k else scientific digits k

/-- A finite number as text. -/
def text (x : Binary64) : String :=
  String.ofList (if x.isNegative then '-' :: magnitudeText x.magnitude else magnitudeText x.magnitude)

end StoredProperty.Binary64
