/-!
# Types of properties

A property has one of four types. Each has a name of its own and the name of the field type that it stands for, and
both names are recognised.
-/

namespace StoredProperty

inductive ValueType where
  | bool | int | float | string
  deriving DecidableEq

namespace ValueType

def all : List ValueType := [bool, int, float, string]

def name : ValueType → String
  | bool => "Bool"
  | int => "Int"
  | float => "Float"
  | string => "String"

/-- The type of a field of this type. -/
def fieldType : ValueType → String
  | bool => "bool"
  | int => "i64"
  | float => "f64"
  | string => "String"

def ofName? (name : String) : Option ValueType := all.find? fun t => t.name = name || t.fieldType = name

theorem ofName?_name (t : ValueType) : ofName? t.name = some t := by cases t <;> rfl

theorem ofName?_fieldType (t : ValueType) : ofName? t.fieldType = some t := by cases t <;> rfl

end ValueType

end StoredProperty
