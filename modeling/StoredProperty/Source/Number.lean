import StoredProperty.Binary64.Reader
import StoredProperty.Text.Identifier

/-!
# Numbers in source text

An integer is written in base ten, or in base sixteen, eight or two behind `0x`, `0o` or `0b`; a number with a point or
an exponent is a float. Underscores group digits. A suffix follows at once and names the type. The first half of this
module says where a number ends, the second what it is.
-/

namespace StoredProperty.Source

open Text

/-- The rest behind an identifier. -/
def afterWord? : List Char → Option (List Char)
  | c :: rest => if startsIdentifier c then some (rest.dropWhile continuesIdentifier) else none
  | [] => none

def afterSuffix (cs : List Char) : List Char := (afterWord? cs).getD cs

/-- The same rest, unless a word goes on there. -/
def wordBreak? (cs : List Char) : Option (List Char) := if cs.head?.any continuesIdentifier then none else some cs

namespace Number

def isDigitOrUnderscore (c : Char) : Bool := c.isDigit || c = '_'

/-- The rest behind an exponent, from behind its letter on. -/
def afterExponent? (sign value : Bool) : List Char → Option (List Char)
  | [] => if value then some [] else none
  | c :: rest =>
    if c = '+' || c = '-' then
      if value then some (c :: rest) else if sign then none else afterExponent? true value rest
    else if c.isDigit then afterExponent? sign true rest
    else if c = '_' then afterExponent? sign value rest
    else if value then some (c :: rest) else none

def isExponentLetter (c : Char) : Bool := c = 'e' || c = 'E'

/-- The rest behind the digits of a float: it needs a point or an exponent. -/
def afterFloatDigits? (cs : List Char) : Option (List Char) :=
  if !(cs.head?.any Char.isDigit) then none
  else
    match cs.dropWhile isDigitOrUnderscore with
    | '.' :: rest =>
      if rest.head?.any (fun c => c = '.' || startsIdentifier c) then none
      else
        match rest.dropWhile isDigitOrUnderscore with
        | c :: after =>
          if isExponentLetter c then (afterExponent? false false after).or (c :: after) else some (c :: after)
        | [] => some []
    | c :: rest => if isExponentLetter c then afterExponent? false false rest else none
    | [] => none

def afterFloat? (cs : List Char) : Option (List Char) :=
  (afterFloatDigits? cs).bind fun rest => wordBreak? (afterSuffix rest)

/-- The value of a digit up to fifteen. -/
def digit? (c : Char) : Option Nat :=
  if c.isDigit then some (c.toNat - '0'.toNat)
  else if 'a' ≤ c && c ≤ 'f' then some (c.toNat - 'a'.toNat + 10)
  else if 'A' ≤ c && c ≤ 'F' then some (c.toNat - 'A'.toNat + 10)
  else none

/-- The rest behind the digits of an integer. A decimal digit that the base does not have spoils it. -/
def afterIntegerDigits? (base : Nat) (any : Bool) : List Char → Option (List Char)
  | [] => if any then some [] else none
  | c :: rest =>
    if c = '_' then if !any && base = 10 then none else afterIntegerDigits? base any rest
    else
      match digit? c with
      | some d =>
        if d < base then afterIntegerDigits? base true rest
        else if c.isDigit then none
        else if any then some (c :: rest) else none
      | none => if any then some (c :: rest) else none

/-- The base, and the digits behind its mark. -/
def base : List Char → Nat × List Char
  | '0' :: 'x' :: rest => (16, rest)
  | '0' :: 'o' :: rest => (8, rest)
  | '0' :: 'b' :: rest => (2, rest)
  | cs => (10, cs)

def afterInteger? (cs : List Char) : Option (List Char) :=
  let (base, digits) := base cs
  (afterIntegerDigits? base false digits).bind fun rest => wordBreak? (afterSuffix rest)

/-! ## Values -/

/-- Behind the letter of an exponent there are digits, perhaps after a sign. -/
def isExponent (any : Bool) : List Char → Bool
  | [] => any
  | c :: rest =>
    if c = '_' then isExponent any rest
    else if c = '+' || c = '-' then true
    else if c.isDigit then isExponent true rest
    else any

/-- The value and the suffix of an integer's digits; none for a float. -/
def integerDigits? (base value : Nat) (any : Bool) : List Char → Option (Nat × List Char)
  | [] => if any then some (value, []) else none
  | c :: rest =>
    if c = '_' then integerDigits? base value any rest
    else
      match digit? c with
      | some d =>
        if d < base then integerDigits? base (base * value + d) true rest
        else if isExponentLetter c && base = 10 && isExponent false rest then none
        else if any then some (value, c :: rest) else none
      | none => if c = '.' && base = 10 then none else if any then some (value, c :: rest) else none

def integer? (cs : List Char) : Option (Nat × List Char) :=
  let (base, digits) := base cs
  if digits.head?.any (fun c => c.isDigit || base ≠ 10) then integerDigits? base 0 false digits else none

/-- The digits with point and exponent of a float, without underscores and plus signs, and its suffix. -/
def floatDigits (exponent : Bool) : List Char → List Char × List Char
  | [] => ([], [])
  | c :: rest =>
    let keep (exponent : Bool) (kept : List Char) :=
      let (digits, suffix) := floatDigits exponent rest
      (kept ++ digits, suffix)
    if c = '_' then keep exponent []
    else if c.isDigit || c = '.' then keep exponent [c]
    else if isExponentLetter c && !exponent && isExponent false rest then keep true ['e']
    else if c = '-' then keep exponent [c]
    else if c = '+' then keep exponent []
    else ([], c :: rest)

/-- The value and the suffix of a float. -/
def float? (cs : List Char) : Option (Binary64 × List Char) :=
  let (digits, suffix) := floatDigits false cs
  (Binary64.read? digits).map (·, suffix)

end Number

end StoredProperty.Source
