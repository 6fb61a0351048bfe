import StoredProperty.Literal
import StoredProperty.Source.Expr
import StoredProperty.Source.Number
import StoredProperty.Source.StringLiteral

/-!
# The literal of an expression

Booleans, texts and numbers are literals, and so is a negated number: an integer is negated as it is written, so that
the least one can be, and a float by its sign. Parentheses, groups and attributes are looked through. A path of at
least two segments is a member of the last but one. Whatever else an expression is, only its text counts. Integers and
floats may carry the suffix of their own type, and no other.
-/

namespace StoredProperty.Source

namespace Scalar

def isIntegerSuffix (suffix : List Char) : Bool := suffix.isEmpty || suffix = "i64".toList

def isFloatSuffix (suffix : List Char) : Bool := suffix.isEmpty || suffix = "f64".toList

/-- An integer in range. -/
def integer? (negative : Bool) (n : Nat) : Option Literal :=
  (Text.toInt64? (if negative then -Int.ofNat n else Int.ofNat n)).map Literal.int

/-- The value and the suffix of an integer as it is written. -/
def digits? (text : String) : Option (Nat × List Char) := Number.integer? text.toList

def number? (cs : List Char) : Option Literal :=
  match Number.integer? cs with
  | some (n, suffix) => if isIntegerSuffix suffix then integer? false n else none
  | none => (Number.float? cs).bind fun (x, suffix) => if isFloatSuffix suffix then some (.float x) else none

/-- The literal that a literal token is, unless it is of another kind or out of range. -/
def ofText? (text : String) : Option Literal :=
  let cs := text.toList
  if cs.head?.any Char.isDigit then number? cs
  else
    match StringLiteral.read? cs with
    | some (.text, value, _) => some (.str (String.ofList value))
    | _ => none

end Scalar

namespace Expr

/-- The integer behind a minus sign. -/
def integer? : Expr → Option (Nat × List Char)
  | literal text => Scalar.digits? text
  | paren e | group e | attributed _ e => e.integer?
  | _ => none

/-- A member of a type that a path names. -/
def member? (p : Path) : Option Literal :=
  match p.segments.reverse with
  | last :: base :: _ => if last.arguments.isEmpty then some (.memberRef base.name.text last.name.text) else none
  | _ => none

/-- The literal of an expression that is one. -/
def literal? : Expr → Option Literal
  | literal text => Scalar.ofText? text
  | bool value => some (.bool value)
  | path p => member? p
  | paren e | group e | attributed _ e => e.literal?
  | unary .negate e =>
    match e.integer? with
    | some (n, suffix) => if Scalar.isIntegerSuffix suffix then Scalar.integer? true n else none
    | none =>
      match e.literal? with
      | some (.float x) => some (.float (-x))
      | _ => none
  | _ => none

/-- The expression that has no literal of its own: parentheses and groups around it do not show, nor attributes on
them. -/
def core : Expr → Expr
  | paren e | group e | attributed _ (paren e) | attributed _ (group e) => e.core
  | e => e

def asLiteral (e : Expr) : Literal := e.literal?.getD (.unsupported e.core.text)

end Expr

end StoredProperty.Source
