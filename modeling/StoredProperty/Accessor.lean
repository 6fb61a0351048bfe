import StoredProperty.Declaration

/-!
# Accessors

An accessor is what the getter and the setter of a property do: the getter looks for a key in a store, and has a
default and a read; the setter has a store and a key of its own. It is worked out from a spec in two steps. Resolution
settles the type by the default, the key by the name where none is given, and the store by the standard one where none
is given; an accessor then exists unless one of its texts is blank, and both its parts use the same store and key.

Rendered as text, the getter looks for the key first and returns the default when it is absent; the setter stores the
new value. The display form shows both bodies, indented, in a frame.
-/

namespace StoredProperty

inductive StoreRef where
  | standard
  | expr (source : String)
  deriving DecidableEq

namespace StoreRef

def ofSource? (store : Option String) : StoreRef := (store.map expr).getD standard

@[simp] theorem ofSource?_none : ofSource? none = standard := rfl

@[simp] theorem ofSource?_some (source : String) : ofSource? (some source) = expr source := rfl

/-- The store's text, where the standard store is named by `standardStore`. -/
def source (standardStore : String) : StoreRef → String
  | standard => standardStore
  | expr source => source

def display : StoreRef → String := source "<standard store>"

end StoreRef

/-- How the value behind the key is read. -/
inductive Read where
  | bool | integer | float
  /-- Falls back to the default a second time, when the value is not a text. -/
  | stringOrDefault
  deriving DecidableEq

namespace Read

def ofType : ValueType → Read
  | .bool => bool
  | .int => integer
  | .float => float
  | .string => stringOrDefault

def name : Read → String
  | bool => "Bool"
  | integer => "Integer"
  | float => "Float"
  | stringOrDefault => "StringOrDefault"

/-- The store's method that does the read. -/
def method : Read → String
  | bool => "bool"
  | integer => "integer"
  | float => "float"
  | stringOrDefault => "string"

def fallsBack (r : Read) : Bool := r = stringOrDefault

end Read

/-- What a getter does: it returns the default when the key is absent, and the value read otherwise. -/
@[ext]
structure Getter where
  store : StoreRef
  key : String
  default : String
  read : Read
  deriving DecidableEq

/-- What a setter does: it stores its parameter under the key. -/
@[ext]
structure Setter where
  store : StoreRef
  key : String
  deriving DecidableEq

@[ext]
structure Accessor where
  valueType : ValueType
  get : Getter
  set : Setter
  deriving DecidableEq

namespace Accessor

/-! The getter's parts. -/

def store (a : Accessor) : StoreRef := a.get.store

def key (a : Accessor) : String := a.get.key

def default (a : Accessor) : String := a.get.default

def read (a : Accessor) : Read := a.get.read

end Accessor

/-- The setter's parameter. -/
def newValue : String := "new_value"

/-- A property whose type, key and store are settled. -/
structure ResolvedProperty where
  valueType : ValueType
  store : StoreRef
  key : String
  default : DefaultValue
  deriving DecidableEq

/-- The key of a property: the given text, or its name as a quoted text. -/
def resolveKey (key : Option String) (name : String) : String := key.getD (Text.quoted name)

@[simp] theorem resolveKey_none (name : String) : resolveKey none name = Text.quoted name := rfl

@[simp] theorem resolveKey_some (source name : String) : resolveKey (some source) name = source := rfl

def DefaultValue.classify (d : DefaultValue) : Except Fault ValueType :=
  match d.literal.valueType? with
  | some t => .ok t
  | none => .error (.unsupportedDefault d.source)

namespace PropertySpec

def resolve (s : PropertySpec) : Except Fault ResolvedProperty :=
  s.default.classify.map fun valueType =>
    { valueType, store := .ofSource? s.store, key := resolveKey s.key s.name, default := s.default }

end PropertySpec

namespace ResolvedProperty

def accessor (p : ResolvedProperty) : Except Fault Accessor := do
  if Text.isBlankText p.key then throw .emptyKey
  if let .expr source := p.store then
    if Text.isBlankText source then throw .emptyStore
  if Text.isBlankText p.default.source then throw .emptyDefault
  return {
    valueType := p.valueType
    get := { store := p.store, key := p.key, default := p.default.source, read := .ofType p.valueType }
    set := { store := p.store, key := p.key } }

end ResolvedProperty

def PropertySpec.accessor (s : PropertySpec) : Except Fault Accessor := do
  (← s.resolve).accessor

def Declaration.accessor (d : Declaration) : Except Fault Accessor := do
  (← PropertySpec.ofDeclaration d).accessor

/-! ## Accessors as text -/

/-- The bodies of the getter and the setter as text. -/
structure AccessorText where
  getter : String
  setter : String
  deriving DecidableEq

def Accessor.render (a : Accessor) (standardStore : String) : AccessorText :=
  let store := a.store.source standardStore
  let read := store ++ "." ++ a.read.method ++ "(" ++ a.key ++ ")"
  let fallback := if a.read.fallsBack then ".unwrap_or_else(|| " ++ a.default ++ ".into())" else ""
  { getter :=
      "if !" ++ store ++ ".contains(" ++ a.key ++ ") \x7b\n    return " ++ a.default ++ ";\n\x7d\n" ++ read ++ fallback
    setter := a.set.store.source standardStore ++ ".set_value(" ++ a.set.key ++ ", " ++ newValue ++ ".into());" }

def AccessorText.display (t : AccessorText) : String :=
  "get \x7b\n" ++ Text.indented t.getter ++ "\x7d\nset \x7b\n" ++ Text.indented t.setter ++ "\x7d"

end StoredProperty
