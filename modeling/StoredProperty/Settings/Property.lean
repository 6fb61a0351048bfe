import StoredProperty.Store.Operation

/-!
# Properties kept in stores

A property has a default, whose kind is the property's type, a key, and one of two stores: the standard one, or the
one that its owner brings. Its getter asks the store for the key first. It returns the default when the key is absent,
and otherwise does the store's read of the property's type; a text property returns the default also when the value is
not a text. Its setter stores a value under the key.
-/

namespace StoredProperty

inductive Place where
  | own | standard
  deriving DecidableEq

structure Stores where
  own : MemoryStore
  standard : MemoryStore

namespace Stores

def store (s : Stores) : Place → MemoryStore
  | .own => s.own
  | .standard => s.standard

/-- The stores with one of them replaced. -/
def replace (s : Stores) (store : MemoryStore) : Place → Stores
  | .own => { s with own := store }
  | .standard => { s with standard := store }

@[simp] theorem store_replace_self (s : Stores) (store : MemoryStore) (p : Place) :
    (s.replace store p).store p = store := by
  cases p <;> rfl

theorem store_replace_of_ne (s : Stores) (store : MemoryStore) {p q : Place} (h : q ≠ p) :
    (s.replace store p).store q = s.store q := by
  cases p <;> cases q <;> first | rfl | exact absurd rfl h

/-- An operation on one of the stores. -/
def after (s : Stores) (p : Place) (op : StoreOperation) : Stores := s.replace ((s.store p).after op) p

end Stores

structure Property where
  default : StoredValue
  key : String
  place : Place
  deriving DecidableEq

/-- The store's read of a key in the type of a default, which stands in for a text that is none. -/
def MemoryStore.readAs (s : MemoryStore) (key : String) : StoredValue → StoredValue
  | .bool _ => .bool (s.bool key)
  | .int _ => .int (s.integer key)
  | .float _ => .float (s.float key)
  | .string d => .string ((s.text? key).getD d)

namespace Property

def get (p : Property) (s : Stores) : StoredValue :=
  let store := s.store p.place
  if store.contains p.key then store.readAs p.key p.default else p.default

/-- The operation that reads the key in the property's type. -/
def reading (p : Property) : StoreOperation :=
  match p.default with
  | .bool _ => .bool p.key
  | .int _ => .integer p.key
  | .float _ => .float p.key
  | .string _ => .text p.key

/-- The operations that the getter does on the property's store. -/
def asking (p : Property) (s : Stores) : List StoreOperation :=
  .contains p.key :: if (s.store p.place).contains p.key then [p.reading] else []

/-- The operation that the setter does on the property's store. -/
def setting (p : Property) (v : StoredValue) : StoreOperation := .set p.key v

def set (p : Property) (v : StoredValue) (s : Stores) : Stores := s.after p.place (p.setting v)

/-- The events of the setter. -/
def setEvents (p : Property) (v : StoredValue) (s : Stores) : List StoreEvent :=
  (s.store p.place).events (p.setting v)

end Property

end StoredProperty
