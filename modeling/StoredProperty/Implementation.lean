import StoredProperty.Accessor.Method
import StoredProperty.Mark
import StoredProperty.Expansion

/-!
# Structs with properties

In a marked struct each field with a mark becomes a property. The field is taken out of the struct and its
two methods go into an implementation. Each field is treated on its own: what fails gives one error and no methods, and
does not touch the others. Fields without a mark stay as they are, in their order.
-/

namespace StoredProperty

open Source

/-- What becomes of a field. -/
inductive FieldOutcome where
  | kept (f : Field)
  | methods (tokens : List Tree)
  | failed (d : Diagnostic)

namespace Source.Field

/-- The declaration of the property that a field is marked as. -/
def declaration (f : Field) (mark : Attribute) : Except Diagnostic Declaration :=
  mark.arguments.map fun arguments => { name := f.name.name, arguments }

def comments (f : Field) : List Attribute := f.attributes.filter (·.isNamed "doc")

/-- The methods of a field with one mark. -/
def methods (f : Field) (mark : Attribute) (library : List Tree) : Except Diagnostic (List Tree) := do
  let declaration ← f.declaration mark
  let accessor ← Config.expand {} declaration
  accessor.methods f f.comments library

def outcome (f : Field) (library : List Tree) : FieldOutcome :=
  match f.attributes.filter Attribute.isMark with
  | [] => .kept f
  | [mark] =>
    match f.methods mark library with
    | .ok tokens => .methods tokens
    | .error d => .failed d
  | _ => .failed (.syntaxError ("duplicate `" ++ Mark.spelled Mark.fieldName ++ "` attribute"))

/-- What happens when the field is treated: its declaration is expanded, if it has one. -/
def events (f : Field) : List ExpansionEvent :=
  match f.attributes.filter Attribute.isMark with
  | [mark] =>
    match f.declaration mark with
    | .ok d => d.events
    | .error _ => []
  | _ => []

end Source.Field

namespace FieldOutcome

def kept? : FieldOutcome → Option Field
  | kept f => some f
  | _ => none

def methods? : FieldOutcome → Option (List Tree)
  | methods tokens => some tokens
  | _ => none

def failed? : FieldOutcome → Option Diagnostic
  | failed d => some d
  | _ => none

end FieldOutcome

/-- The tokens that make the compiler stop with a message. -/
def compileError (message : String) : List Tree :=
  Tree.op "::" ++ [.word "core"] ++ Tree.op "::" ++ [.word "compile_error"] ++ Tree.op "!"
    ++ [Tree.braced [.literal (StringLiteral.write message.toList)]]

namespace Source.Struct

/-- The struct with the fields that are kept, the methods of the others, and the errors. -/
def expandFields (s : Struct) (fields : List Field) (library : List Tree) : List Tree :=
  let outcomes := fields.map (·.outcome library)
  s.treesWith (outcomes.filterMap FieldOutcome.kept?)
    ++ s.implementation (outcomes.filterMap FieldOutcome.methods?).flatten
    ++ (outcomes.filterMap FieldOutcome.failed?).flatMap fun d => compileError d.display

/-- The expansion of a struct whose own mark has the given arguments; it should have none. -/
def expand (s : Struct) (arguments library : List Tree) : List Tree :=
  let name := Mark.spelled Mark.structName
  if !arguments.isEmpty then compileError (name ++ " does not take arguments")
  else
    match s.fields with
    | .named fields _ => s.expandFields fields library
    | _ => compileError (name ++ " requires a struct with named fields")

/-- The events of `expand`. -/
def events (s : Struct) (arguments : List Tree) : List ExpansionEvent :=
  match s.fields with
  | .named fields _ => if arguments.isEmpty then fields.flatMap Field.events else []
  | _ => []

end Source.Struct

end StoredProperty
