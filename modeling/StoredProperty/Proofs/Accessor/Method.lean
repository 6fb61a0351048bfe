import StoredProperty.Accessor.Method
import StoredProperty.Proofs.Source.Form

/-!
# The two methods of a field

The body of a method is a list of instructions, with an answer behind them in a getter. What each looks like is spelled
out here token by token, apart from the code that makes the tokens. An accessor gives two bodies when each of its texts
is an expression (`Accessor.HasBodies`), and the first text that is none is an error (`Accessor.FailsToRead`). The code
is then the getter, which has the name of the field, and behind it the setter: `Accessor.methods_eq_ok_iff` and
`Accessor.methods_eq_error_iff`.
-/

namespace StoredProperty

open Source

section

variable {ε α β : Type} {x : Except ε α} {next : α → Except ε β}

/-- A computation succeeds when both its parts do. -/
theorem bind_eq_ok_iff {b : β} : (x >>= next) = .ok b ↔ ∃ a, x = .ok a ∧ next a = .ok b := by
  cases x <;> simp [bind, Except.bind]

/-- A computation fails with its first part, or with the second behind a success. -/
theorem bind_eq_error_iff {e : ε} :
    (x >>= next) = .error e ↔ x = .error e ∨ ∃ a, x = .ok a ∧ next a = .error e := by
  cases x <;> simp [bind, Except.bind]

end

/-! ## Bodies -/

/-- The store that a method works on. -/
inductive StoreCode where
  /-- The standard store of the library. -/
  | standard
  | expr (e : Expr)

/-- The default that a getter returns. -/
inductive DefaultCode where
  | plain (e : Expr)
  /-- A text is converted into the type of the property. -/
  | converted (e : Expr)

inductive Instruction where
  /-- Brings the methods of stores into scope. -/
  | inScope
  /-- Binds the variable to a store. -/
  | bindStore (store : StoreCode)
  /-- Returns the default unless the store has the key. -/
  | needKey (key : Expr) (value : DefaultCode)
  /-- Stores the new value under the key. -/
  | storeValue (key : Expr)

/-- A call of one of the store's methods with a key, and what counts where it finds nothing. -/
structure Call where
  method : String
  key : Expr
  fallback : Option DefaultCode

structure Body where
  instructions : List Instruction
  answer : Option Call

namespace StoreCode

def trees (library : List Tree) : StoreCode → List Tree
  | standard => library ++ Tree.op "::" ++ [.word "standard", Tree.paren []]
  | expr e => e.trees

end StoreCode

namespace DefaultCode

def trees : DefaultCode → List Tree
  | plain e => e.trees
  | converted e =>
    Tree.op "::" ++ [.word "core"] ++ Tree.op "::" ++ [.word "convert"] ++ Tree.op "::" ++ [.word "Into"]
      ++ Tree.op "::" ++ [.word "into", Tree.paren e.trees]

/-- A default of a type. -/
def ofType (e : Expr) : ValueType → DefaultCode
  | .string => converted e
  | .bool | .int | .float => plain e

end DefaultCode

namespace Instruction

/-- The tokens, where `library` is the path to what all stores share. -/
def trees (library : List Tree) : Instruction → List Tree
  | inScope => .word "use" :: library ++ Tree.op "::" ++ [.word "KeyValueStore", .word "as", .word "_"] ++ Tree.op ";"
  | bindStore store =>
    [.word "let", .word "__store"] ++ Tree.op "=" ++ Tree.op "&" ++ [Tree.paren (store.trees library)] ++ Tree.op ";"
  | needKey key value =>
    [.word "if"] ++ Tree.op "!" ++ [.word "__store"] ++ Tree.op "." ++ [.word "contains", Tree.paren key.trees]
      ++ [Tree.braced (.word "return" :: value.trees ++ Tree.op ";")]
  | storeValue key =>
    let stored :=
      library ++ Tree.op "::" ++ [.word "StoreValue"] ++ Tree.op "::" ++ [.word "from", Tree.paren [.word "new_value"]]
    [.word "__store"] ++ Tree.op "." ++ [.word "set_value", Tree.paren (key.trees ++ Tree.op "," ++ stored)]
      ++ Tree.op ";"

end Instruction

namespace Call

def trees (c : Call) : List Tree :=
  let fallback := match c.fallback with
    | none => []
    | some value => Tree.op "." ++ [.word "unwrap_or_else", Tree.paren (Tree.op "||" ++ value.trees)]
  [.word "__store"] ++ Tree.op "." ++ [.word c.method, Tree.paren c.key.trees] ++ fallback

/-- The call that does a read; only a text may be missing. -/
def ofRead (key : Expr) (value : DefaultCode) : Read → Call
  | .bool => ⟨"bool", key, none⟩
  | .integer => ⟨"integer", key, none⟩
  | .float => ⟨"float", key, none⟩
  | .stringOrDefault => ⟨"string", key, some value⟩

end Call

namespace Body

def trees (library : List Tree) (b : Body) : List Tree :=
  b.instructions.flatMap (·.trees library) ++ match b.answer with
    | none => []
    | some call => call.trees

def getter (store : StoreCode) (key : Expr) (value : DefaultCode) (read : Read) : Body where
  instructions := [.inScope, .bindStore store, .needKey key value]
  answer := some (.ofRead key value read)

def setter (store : StoreCode) (key : Expr) : Body where
  instructions := [.inScope, .bindStore store, .storeValue key]
  answer := none

variable (store : StoreCode) (key value : Expr) (library : List Tree)

/-- The code prints the getter's body as it is spelled out. -/
theorem trees_getter (a : Accessor) :
    (getter store key (.ofType value a.valueType) a.read).trees library =
      a.getterBody library (store.trees library) key.trees value.trees := by
  have default : (DefaultCode.ofType value a.valueType).trees = Accessor.defaultTrees a.valueType value.trees := by
    cases a.valueType <;> rfl
  unfold Accessor.getterBody
  simp only [← default]
  cases a.read <;> simp [trees, getter, Instruction.trees, Call.trees, Call.ofRead, Read.fallsBack, Read.method,
    Accessor.opening, Accessor.callStore, Accessor.storeName]

example : Tree.text ((getter .standard (.literal "\"k\"") (.plain (.literal "1")) .integer).trees [.word "kv"]) =
    "use kv :: KeyValueStore as _ ; let __store = & (kv :: standard ()) ; "
      ++ "if ! __store . contains (\"k\") \x7b return 1 ; \x7d __store . integer (\"k\")" := by
  decide +kernel

/-- The code prints the setter's body as it is spelled out. -/
theorem trees_setter :
    (setter store key).trees library = Accessor.setterBody library (store.trees library) key.trees := by
  simp [trees, setter, Instruction.trees, Accessor.setterBody, Accessor.opening, Accessor.callStore, Accessor.storeName,
    newValue]

example : Tree.text ((setter .standard (.literal "\"k\"")).trees [.word "kv"]) =
    "use kv :: KeyValueStore as _ ; let __store = & (kv :: standard ()) ; "
      ++ "__store . set_value (\"k\" , kv :: StoreValue :: from (new_value)) ;" := by
  decide +kernel

end Body

/-! ## Methods -/

/-- A method in an implementation. -/
structure Method where
  attributes : List Attribute
  visibility : List Tree
  name : Ident
  parameters : List Tree
  result : Option (List Tree)
  body : Body

namespace Method

def trees (library : List Tree) (m : Method) : List Tree :=
  m.attributes.flatMap Attribute.spelled ++ m.visibility ++ [.word "fn", .ident m.name, Tree.paren m.parameters]
    ++ (m.result.map (Tree.op "->" ++ ·)).getD [] ++ [Tree.braced (m.body.trees library)]

/-- The getter of a field: its name, its type as the result, and no parameter but the receiver. -/
def getter (f : Field) (comments : List Attribute) (body : Body) : Method where
  attributes := comments
  visibility := f.visibility
  name := f.name
  parameters := Tree.op "&" ++ [.word "self"]
  result := some f.type
  body := body

/-- The setter of a field, with the new value as its parameter. -/
def setter (f : Field) (body : Body) : Method where
  attributes := [.comment (" Stores a new value for [`Self::" ++ f.name.text ++ "`].")]
  visibility := f.visibility
  name := .plain ("set_" ++ f.name.name)
  parameters := Tree.op "&" ++ [.word "self"] ++ Tree.op "," ++ [.word "new_value"] ++ Tree.op ":" ++ f.type
  result := none
  body := body

variable (f : Field) (library : List Tree) (body : Body)

theorem trees_getter (comments : List Attribute) :
    (getter f comments body).trees library = Accessor.getter f comments (body.trees library) := by
  simp [trees, getter, Accessor.getter, Accessor.receiver, Attribute.flatMap_spelled]

theorem trees_setter : (setter f body).trees library = Accessor.setter f (body.trees library) := by
  have comment : (Attribute.comment (" Stores a new value for [`Self::" ++ f.name.text ++ "`].")).spelled =
      (Accessor.setterComment f.name).trees := Attribute.spelled_eq _
  simp [trees, setter, Accessor.setter, Accessor.receiver, newValue, Tree.word, comment]

end Method

/-! ## The code of an accessor -/

/-- What a store is in code. -/
inductive StoreRef.IsReadAs : StoreRef → StoreCode → Prop
  | standard : IsReadAs .standard .standard
  | expr {source : String} {e : Expr} (read : Expr.ofText source = .ok e) : IsReadAs (.expr source) (.expr e)

/-- The text of a store that has one, with what it is for. -/
def StoreRef.texts : StoreRef → List (String × String)
  | standard => []
  | expr source => [("store", source)]

namespace Accessor

/-- The bodies of the getter and the setter, made of what the texts of the accessor are read as. -/
inductive HasBodies (a : Accessor) : Body → Body → Prop
  | intro {store setStore : StoreCode} {key value setKey : Expr}
      (readStore : a.get.store.IsReadAs store)
      (readKey : Expr.ofText a.get.key = .ok key)
      (readDefault : Expr.ofText a.get.default = .ok value)
      (readSetStore : a.set.store.IsReadAs setStore)
      (readSetKey : Expr.ofText a.set.key = .ok setKey) :
      HasBodies a (.getter store key (.ofType value a.valueType) a.get.read) (.setter setStore setKey)

/-- The texts in the order in which they are read, each with what it is for. -/
def texts (a : Accessor) : List (String × String) :=
  a.get.store.texts ++ ("key", a.get.key) :: ("default value", a.get.default) :: (a.set.store.texts ++ [("key", a.set.key)])

/-- The error of the first text that is not an expression. -/
inductive FailsToRead : List (String × String) → Diagnostic → Prop
  | here {what text : String} {e : SyntaxError} {rest : List (String × String)} (failed : Expr.ofText text = .error e) :
      FailsToRead ((what, text) :: rest)
        (.syntaxError ("invalid " ++ what ++ " expression `" ++ text ++ "`: " ++ e.message))
  | later {what text : String} {e : Expr} {rest : List (String × String)} {d : Diagnostic}
      (read : Expr.ofText text = .ok e) (failed : FailsToRead rest d) : FailsToRead ((what, text) :: rest) d

variable {a : Accessor} {f : Field} {comments : List Attribute} {library tokens : List Tree} {d : Diagnostic}
  {what text : String} {rest : List (String × String)}

/-- A text is put into code as the expression that it is read as. -/
theorem operand_eq_ok_iff : operand what text = .ok tokens ↔ ∃ e, Expr.ofText text = .ok e ∧ tokens = e.trees := by
  rw [operand]
  cases Expr.ofText text <;> simp [eq_comm]

theorem storeTrees_eq_ok_iff {r : StoreRef} :
    storeTrees library r = .ok tokens ↔ ∃ store, r.IsReadAs store ∧ tokens = store.trees library := by
  cases r with
  | standard =>
    constructor
    · rintro ⟨⟩
      exact ⟨.standard, .standard, rfl⟩
    · rintro ⟨_, ⟨⟩, rfl⟩
      rfl
  | expr source =>
    rw [storeTrees, operand_eq_ok_iff]
    constructor
    · rintro ⟨e, read, rfl⟩
      exact ⟨.expr e, .expr read, rfl⟩
    · rintro ⟨_, isRead, rfl⟩
      cases isRead with
      | expr read => exact ⟨_, read, rfl⟩

/-- The texts of an accessor are read in one way. -/
theorem HasBodies.unique {get set get' set' : Body} (h : a.HasBodies get set) (h' : a.HasBodies get' set') :
    get = get' ∧ set = set' := by
  have same {r : StoreRef} {s s' : StoreCode} (read : r.IsReadAs s) (read' : r.IsReadAs s') : s = s' := by
    cases read with
    | standard => cases read'; rfl
    | expr read =>
      obtain - | read' := read'
      cases read.symm.trans read'
      rfl
  obtain ⟨store, key, value, setStore, setKey⟩ := h
  obtain ⟨store', key', value', setStore', setKey'⟩ := h'
  cases same store store'
  cases key.symm.trans key'
  cases value.symm.trans value'
  cases same setStore setStore'
  cases setKey.symm.trans setKey'
  exact ⟨rfl, rfl⟩

/-- The code of an accessor is its two methods, one behind the other. -/
theorem methods_eq_ok_iff :
    a.methods f comments library = .ok tokens ↔
      ∃ get set, a.HasBodies get set ∧
        tokens = (Method.getter f comments get).trees library ++ (Method.setter f set).trees library := by
  simp only [Method.trees_getter, Method.trees_setter]
  rw [methods]
  simp only [bind_eq_ok_iff, operand_eq_ok_iff, storeTrees_eq_ok_iff, pure, Except.pure, Except.ok.injEq]
  constructor
  · rintro ⟨_, ⟨store, readStore, rfl⟩, _, ⟨key, readKey, rfl⟩, _, ⟨value, readDefault, rfl⟩,
      _, ⟨setStore, readSetStore, rfl⟩, _, ⟨setKey, readSetKey, rfl⟩, rfl⟩
    refine ⟨_, _, ⟨readStore, readKey, readDefault, readSetStore, readSetKey⟩, ?_⟩
    rw [← Body.trees_getter, ← Body.trees_setter]
    rfl
  · rintro ⟨get, set, ⟨readStore, readKey, readDefault, readSetStore, readSetKey⟩, rfl⟩
    refine ⟨_, ⟨_, readStore, rfl⟩, _, ⟨_, readKey, rfl⟩, _, ⟨_, readDefault, rfl⟩, _, ⟨_, readSetStore, rfl⟩,
      _, ⟨_, readSetKey, rfl⟩, ?_⟩
    rw [← Body.trees_getter, ← Body.trees_setter]
    rfl

/-! ## Errors -/

theorem failsToRead_nil_iff : FailsToRead [] d ↔ False := ⟨nofun, nofun⟩

/-- One text fails, or it is read and a later one fails. -/
theorem failsToRead_cons_iff :
    FailsToRead ((what, text) :: rest) d ↔
      operand what text = .error d ∨ (∃ tokens, operand what text = .ok tokens) ∧ FailsToRead rest d := by
  rw [operand]
  constructor
  · rintro (failed | ⟨read, failed⟩)
    · simp [failed]
    · simp [read, failed]
  · cases read : Expr.ofText text with
    | ok e =>
      rintro (fails | ⟨-, failed⟩)
      · cases fails
      · exact .later read failed
    | error e =>
      rintro (fails | ⟨⟨_, reads⟩, -⟩)
      · cases fails
        exact .here read
      · cases reads

/-- The standard store has no text that could fail. -/
theorem failsToRead_store_iff {r : StoreRef} (library : List Tree) :
    FailsToRead (r.texts ++ rest) d ↔
      storeTrees library r = .error d ∨ (∃ tokens, storeTrees library r = .ok tokens) ∧ FailsToRead rest d := by
  cases r with
  | standard => simp [StoreRef.texts, storeTrees]
  | expr source => exact failsToRead_cons_iff

/-- An accessor has no code when one of its texts is no expression, and the first of these is reported. -/
theorem methods_eq_error_iff : a.methods f comments library = .error d ↔ FailsToRead a.texts d := by
  rw [texts, methods]
  simp only [failsToRead_store_iff library, failsToRead_cons_iff, failsToRead_nil_iff, bind_eq_error_iff,
    exists_and_right, pure, Except.pure, reduceCtorEq, exists_false, and_false, or_false]
  rfl

end Accessor

end StoredProperty
