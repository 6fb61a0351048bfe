import StoredProperty.Source.Expr
import StoredProperty.Source.Number
import StoredProperty.Source.Reader

/-!
# Members in source text

A member is a name or a number without a suffix. The numbers of two members with a point between them are cut as one
float, and have to be taken apart.
-/

namespace StoredProperty.Source.Member

open Reader

def indexLimit : Nat := UInt32.size

/-- The number of a member, which cannot be negative. -/
def number (negative : Bool) (digits : List Char) : Except SyntaxError Nat :=
  match Number.integer? digits with
  | none => .error (.expected .integer false)
  | some (n, suffix) =>
    if !suffix.isEmpty then .error (.expected .unsuffixedInteger false)
    else if negative then .error .indexNegative
    else if n < indexLimit then .ok n
    else .error .indexTooLarge

/-- The digits at the front, and whether a minus sign stands before them. -/
def digits? (ts : List Tree) : Option ((Bool × List Char) × List Tree) :=
  match Tokens.constant? ts with
  | some ([.literal text], rest) => if Tokens.isNumber text then some ((false, text.toList), rest) else none
  | some ([_, .literal text], rest) => some ((true, text.toList), rest)
  | _ => none

def integer? (ts : List Tree) : Option ((Bool × List Char) × List Tree) :=
  (digits? ts).filter fun ((_, cs), _) => (Number.integer? cs).isSome

def float? (ts : List Tree) : Option ((Bool × List Char) × List Tree) :=
  (digits? ts).filter fun ((_, cs), _) => (Number.integer? cs).isNone

def ofDigits (negative : Bool) (digits : List Char) : Reader Nat :=
  match number negative digits with
  | .ok n => pure n
  | .error e => fail e

def read : Reader Member := do
  if let some name ← option Tokens.name? then return .named name
  let (negative, digits) ← take .member integer?
  return .index (← ofDigits negative digits)

/-- The member as a token, and whether it is a name. -/
def readToken : Reader (Tree × Bool) := do
  let m ← read
  return (m.tree, match m with | .named _ => true | .index _ => false)

/-- The numbers of members that were cut as one float, and whether a point ends them. -/
def floatNumbers (negative : Bool) (cs : List Char) : Reader (List Nat × Bool) := do
  let dotted := cs.getLast? = some '.'
  return (← ((if dotted then cs.dropLast else cs).splitOn '.').mapM (ofDigits negative), dotted)

end StoredProperty.Source.Member
