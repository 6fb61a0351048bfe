import StoredProperty.Text.Blank
import StoredProperty.Binary64.Reader

/-!
# Values of a store

A store holds values of four kinds. A value is read as a truth value, an integer or a number whatever its kind is;
as a text only when it is one. A text is read through what it says, without the white space around it.
-/

namespace StoredProperty

inductive StoredValue where
  | bool (b : Bool)
  | int (n : Int64)
  | float (x : Binary64)
  | string (s : String)
  deriving DecidableEq

namespace StoredValue

inductive Kind where
  | bool | int | float | string
  deriving DecidableEq

def Kind.name : Kind → String
  | bool => "bool"
  | int => "int"
  | float => "float"
  | string => "string"

def kind : StoredValue → Kind
  | bool _ => .bool
  | int _ => .int
  | float _ => .float
  | string _ => .string

/-- The texts that are read as true, in any case of their letters. -/
def isTrueWord (cs : List Char) : Bool :=
  let word := cs.map Char.toLower
  word == "true".toList || word == "yes".toList || word == "1".toList

/-- The integer that a text says: an integer in range exactly, any other number towards zero, else zero. -/
def saidInteger (cs : List Char) : Int64 :=
  match Text.int64? cs with
  | some n => n
  | none => match Binary64.read? cs with
    | some x => x.toInt64
    | none => 0

def saidFloat (cs : List Char) : Binary64 := (Binary64.read? cs).getD .zero

def asBool : StoredValue → Bool
  | bool b => b
  | int n => n != 0
  | float x => !x.isZero
  | string s => isTrueWord (Text.trimChars s.toList)

def asInteger : StoredValue → Int64
  | bool b => if b then 1 else 0
  | int n => n
  | float x => x.toInt64
  | string s => saidInteger (Text.trimChars s.toList)

def asFloat : StoredValue → Binary64
  | bool b => if b then .one else .zero
  | int n => .ofInt64 n
  | float x => x
  | string s => saidFloat (Text.trimChars s.toList)

def asText? : StoredValue → Option String
  | string s => some s
  | _ => none

/-- Equality of what is stored: same kind, and numbers compared as numbers. -/
def equal : StoredValue → StoredValue → Bool
  | bool a, bool b => a == b
  | int m, int n => m == n
  | float x, float y => x.equal y
  | string s, string t => s == t
  | _, _ => false

end StoredValue

end StoredProperty
