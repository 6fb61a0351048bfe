import StoredProperty.Declaration
import StoredProperty.Source.Attribute
import StoredProperty.Source.Expr.Literal
import StoredProperty.Source.Expr.Reader

/-!
# Marks

A field is marked as a property by an attribute whose tokens are arguments: expressions between commas. An
assignment to a single name is a labeled argument, every other expression an unlabeled one.
-/

namespace StoredProperty

open Source

namespace Mark

/-- The name of the attribute on a field. -/
def fieldName : String := "store_access"

/-- The name of the attribute on a struct. -/
def structName : String := "store_accessors"

/-- The attribute as it is spoken of. -/
def spelled (name : String) : String := "#[" ++ name ++ "]"

end Mark

/-- A single name that a value is assigned to, and the value. -/
def Source.Expr.labeled? : Expr → Option (Ident × Expr)
  | .assign target value =>
    match target.bare with
    | .path p => p.name?.map (·, value)
    | _ => none
  | _ => none

def Argument.ofExpr (e : Expr) : Argument :=
  match e.labeled? with
  | some (label, value) => ⟨some label.text, value.asLiteral, value.text⟩
  | none => ⟨none, e.asLiteral, e.text⟩

namespace Source.Attribute

def isMark (a : Attribute) : Bool := a.isNamed Mark.fieldName

/-- The expressions between commas that a list of tokens is. -/
def expressions (body : List Tree) : Except SyntaxError (List Expr) :=
  (Reader.all (Reader.commas Expr.read) body).map (·.1)

/-- The arguments of an attribute; there are none, not even an empty list, where it is a bare word. -/
def arguments (a : Attribute) : Except Diagnostic (Option (List Argument)) :=
  match a.content with
  | .word => .ok none
  | .list _ body =>
    match expressions body with
    | .ok es => .ok (some (es.map Argument.ofExpr))
    | .error e => .error (.syntaxError e.message)
  | .value _ => .error (.syntaxError ("expected `#[" ++ Mark.fieldName ++ "(default_value = ...)]`"))

end Source.Attribute

end StoredProperty
