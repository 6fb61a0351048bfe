import StoredProperty.Binary64.Notation
import StoredProperty.Text.Quoted
import StoredProperty.ValueType

/-!
# Literals

The default of a property is an expression. What matters about its form is a `Literal`: a scalar, a member of a named
type, or anything else, of which only the text is kept. A literal has a canonical text, and a scalar or a member of a
known type has a type.
-/

namespace StoredProperty

inductive Literal where
  | bool (b : Bool)
  | int (n : Int64)
  | float (x : Binary64)
  | str (s : String)
  | memberRef (typeName member : String)
  | unsupported (source : String)
  deriving DecidableEq

namespace Literal

/-- A number as an expression: what is not finite has a name. -/
def floatSource (x : Binary64) : String :=
  if x.isNaN then "f64::NAN"
  else if x.isInfinite then if x.isNegative then "f64::NEG_INFINITY" else "f64::INFINITY"
  else x.text

/-- The canonical text. -/
def source : Literal → String
  | bool b => if b then "true" else "false"
  | int n => toString n.toInt
  | float x => floatSource x
  | str s => Text.quoted s
  | memberRef typeName member => typeName ++ "::" ++ member
  | unsupported source => source

def valueType? : Literal → Option ValueType
  | bool _ => some .bool
  | int _ => some .int
  | float _ => some .float
  | str _ => some .string
  | memberRef typeName _ => ValueType.ofName? typeName
  | unsupported _ => none

end Literal

/-- A default as it was written. -/
structure DefaultValue where
  literal : Literal
  source : String
  deriving DecidableEq

/-- A default that is written canonically. -/
def DefaultValue.ofLiteral (literal : Literal) : DefaultValue := ⟨literal, literal.source⟩

end StoredProperty
