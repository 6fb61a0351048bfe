import StoredProperty.Store.Memory

/-!
# Operations on a store and their journal

An operation changes the store or asks it something. Every change is told by exactly one event, which carries the
store's name if it has one; a question is told by none.
-/

namespace StoredProperty

inductive StoreChange where
  | set (key : String) (kind : StoredValue.Kind)
  /-- The flag says whether the key was there. -/
  | removed (key : String) (found : Bool)
  | cleared
  deriving DecidableEq

structure StoreEvent where
  store : Option String
  change : StoreChange
  deriving DecidableEq

inductive StoreOperation where
  | set (key : String) (value : StoredValue)
  | remove (key : String)
  | clear
  | value (key : String)
  | contains (key : String)
  | bool (key : String)
  | integer (key : String)
  | float (key : String)
  | text (key : String)
  | keys
  | size
  | isEmpty
  | name
  | entries

inductive StoreAnswer where
  | done
  | value (v : Option StoredValue)
  | flag (b : Bool)
  | integer (n : Int64)
  | float (x : Binary64)
  | text (s : Option String)
  | keys (ks : List String)
  | size (n : Nat)
  | entries (es : Entries)

namespace MemoryStore

/-- The store after an operation. -/
def after (s : MemoryStore) : StoreOperation → MemoryStore
  | .set key v => s.set key v
  | .remove key => s.remove key
  | .clear => s.clear
  | _ => s

/-- What an operation answers, asked of the store before it. -/
def answer (s : MemoryStore) : StoreOperation → StoreAnswer
  | .set .. | .clear => .done
  | .remove key | .value key => .value (s.value? key)
  | .contains key => .flag (s.contains key)
  | .bool key => .flag (s.bool key)
  | .integer key => .integer (s.integer key)
  | .float key => .float (s.float key)
  | .text key => .text (s.text? key)
  | .keys => .keys s.keys
  | .size => .size s.size
  | .isEmpty => .flag s.isEmpty
  | .name => .text s.name
  | .entries => .entries s.entries

/-- The events of an operation on the store. -/
def events (s : MemoryStore) : StoreOperation → List StoreEvent
  | .set key v => [⟨s.name, .set key v.kind⟩]
  | .remove key => [⟨s.name, .removed key (s.contains key)⟩]
  | .clear => [⟨s.name, .cleared⟩]
  | _ => []

/-- A run of operations: the store at the end. -/
def run (s : MemoryStore) (ops : List StoreOperation) : MemoryStore := ops.foldl after s

@[simp] theorem run_nil (s : MemoryStore) : s.run [] = s := rfl

@[simp] theorem run_cons (s : MemoryStore) (op : StoreOperation) (ops : List StoreOperation) :
    s.run (op :: ops) = (s.after op).run ops := rfl

@[simp] theorem name_after (s : MemoryStore) (op : StoreOperation) : (s.after op).name = s.name := by
  cases op <;> rfl

end MemoryStore

end StoredProperty
