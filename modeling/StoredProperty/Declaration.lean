import StoredProperty.Diagnostic
import StoredProperty.Literal
import StoredProperty.Text.Blank

/-!
# Declarations of properties

A declaration is a name with an argument list, as it was written. A `PropertySpec` is a declaration that makes sense:
a trimmed name, one default, and a key and a store at most once each. `PropertySpec.ofDeclaration` reads the arguments
from left to right and stops at the first that is wrong; a missing default is noticed at the end.
-/

namespace StoredProperty

/-- What an argument is for. -/
inductive Label where
  | default | key | store
  deriving DecidableEq

namespace Label

def text : Label → String
  | default => "default_value"
  | key => "key"
  | store => "store"

/-- The default has a second spelling. -/
def ofText? (s : String) : Option Label :=
  if s = "default_value" || s = "defaultValue" then some default
  else if s = "key" then some key
  else if s = "store" then some store
  else none

theorem ofText?_text (l : Label) : ofText? l.text = some l := by cases l <;> rfl

end Label

structure Argument where
  label : Option String
  literal : Literal
  source : String
  deriving DecidableEq

structure Declaration where
  name : String
  /-- Without an argument list there is nothing, not even an empty list. -/
  arguments : Option (List Argument)
  deriving DecidableEq

/-- Why a declaration has no accessor. -/
inductive Fault where
  | missingArguments
  | missingName
  | unlabeledArgument (source : String)
  | duplicateArgument (label : Label)
  | unknownArgument (label : String)
  | missingDefault
  | unsupportedDefault (source : String)
  | emptyKey
  | emptyStore
  | emptyDefault
  deriving DecidableEq

namespace Fault

def kind : Fault → DiagnosticKind
  | unsupportedDefault _ => .unsupportedType
  | _ => .syntaxError

def extra : Fault → String
  | missingArguments => "missing argument list"
  | missingName => "property has no identifier"
  | unlabeledArgument source => "unlabeled argument `" ++ source ++ "`"
  | duplicateArgument label => "duplicate `" ++ label.text ++ "` argument"
  | unknownArgument label => "unknown argument `" ++ label ++ "`"
  | missingDefault => "missing `default_value` argument"
  | unsupportedDefault source => source
  | emptyKey => "storage key is empty"
  | emptyStore => "store expression is empty"
  | emptyDefault => "default value is empty"

def diagnostic (fault : Fault) (domain : String) : Diagnostic := ⟨fault.kind, domain, some fault.extra⟩

end Fault

structure PropertySpec where
  name : String
  default : DefaultValue
  key : Option String := none
  store : Option String := none
  deriving DecidableEq

namespace PropertySpec

/-- What has been given by the arguments so far. -/
structure Given where
  default : Option DefaultValue := none
  key : Option String := none
  store : Option String := none

def Given.take (given : Given) (a : Argument) : Except Fault Given :=
  match a.label with
  | none => .error (.unlabeledArgument a.source)
  | some label =>
    match Label.ofText? label with
    | none => .error (.unknownArgument label)
    | some .default =>
      if given.default.isSome then .error (.duplicateArgument .default)
      else .ok { given with default := some ⟨a.literal, a.source⟩ }
    | some .key =>
      if given.key.isSome then .error (.duplicateArgument .key) else .ok { given with key := some a.source }
    | some .store =>
      if given.store.isSome then .error (.duplicateArgument .store) else .ok { given with store := some a.source }

def ofDeclaration (d : Declaration) : Except Fault PropertySpec := do
  let some arguments := d.arguments | throw .missingArguments
  let name := Text.trim d.name
  if name.isEmpty then throw .missingName
  let given ← arguments.foldlM Given.take {}
  let some default := given.default | throw .missingDefault
  return { name, default, key := given.key, store := given.store }

end PropertySpec

end StoredProperty
