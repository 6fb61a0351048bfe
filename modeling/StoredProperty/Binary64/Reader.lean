import StoredProperty.Binary64.Basic

/-!
# Numbers read as binary64 words

A number is an optional sign in front of digits with an optional point (at least one digit in all) and an optional
exponent, or one of the words `inf`, `infinity` and `nan` in any case. Its value is rounded once, to the nearest word.
-/

namespace StoredProperty.Binary64

/-- The magnitude nearest to `n * 10 ^ e`. A value with its first digit far outside the range is settled by the
number of its digits, before any power of ten is computed. -/
def ofDecimal (n : Nat) (e : Int) : Nat :=
  let size : Int := (Nat.toDigits 10 n).length + e
  if n = 0 || size < -330 then 0
  else if size > 310 then infinityMagnitude
  else if 0 ≤ e then nearest (n * Nat.pow 10 e.toNat) 1
  else nearest n (Nat.pow 10 (-e).toNat)

/-- The digits at the front, and the rest. -/
def takeDigits (cs : List Char) : List Char × List Char := cs.span Char.isDigit

/-- The exponent at the end of a number; no text at all is the exponent zero. -/
def exponent? : List Char → Option Int
  | [] => some 0
  | c :: rest => if c = 'e' || c = 'E' then Text.integer? rest else none

/-- The magnitude of a number without a sign. -/
def decimal? (cs : List Char) : Option Nat :=
  let (whole, rest) := takeDigits cs
  let (part, rest) := match rest with
    | '.' :: rest => takeDigits rest
    | rest => ([], rest)
  if whole.isEmpty && part.isEmpty then none
  else (exponent? rest).map fun e => ofDecimal (Text.digitsValue (whole ++ part)) (e - part.length)

def magnitude? (cs : List Char) : Option Nat :=
  let word := cs.map Char.toLower
  if word = "inf".toList || word = "infinity".toList then some infinity.magnitude
  else if word = "nan".toList then some nan.magnitude
  else decimal? cs

def read? : List Char → Option Binary64
  | '+' :: cs => (magnitude? cs).map (signed false)
  | '-' :: cs => (magnitude? cs).map (signed true)
  | cs => (magnitude? cs).map (signed false)

end StoredProperty.Binary64
