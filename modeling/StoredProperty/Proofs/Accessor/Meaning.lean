import StoredProperty.Proofs.Accessor.Method
import StoredProperty.Proofs.Expansion.Outcome
import StoredProperty.Proofs.Settings.Getter
import StoredProperty.Proofs.Source.Scalar

/-!
# What an accessor means

An accessor is made of texts, and the texts are expressions. The key and the default are evaluated, and the store is
looked up in a table of expressions; then the getter answers and the setter changes a store, by the rule of fallbacks
and nothing else. `PropertySpec.Describes.implements` says when this is what a property does: a spec declares the
property if its texts stand for the property's parts, and the accessor that the spec describes then has the property's
getter and setter, whatever the stores hold (`Config.exists_implements`).

The code of an accessor is run instruction by instruction (`Body.run?`), and what it does is what the accessor means:
`Accessor.HasBodies.run?_getter` and `Accessor.HasBodies.run?_setter`. Code can be made of every accessor that a spec
describes, since all its texts can be read (`PropertySpec.Describes.exists_hasBodies`).
-/

namespace StoredProperty

open Source

/-! ## Texts -/

/-- The value that a scalar is. -/
def Literal.value? : Literal → Option StoredValue
  | bool b => some (.bool b)
  | int n => some (.int n)
  | float x => some (.float x)
  | str s => some (.string s)
  | memberRef .. | unsupported _ => none

/-- The value of an expression that is a scalar. -/
def Source.Expr.value? (e : Expr) : Option StoredValue := e.asLiteral.value?

/-- The text that an expression is: the value of a string literal. -/
def Source.Expr.text? (e : Expr) : Option String := e.value?.bind StoredValue.asText?

/-- The value of a text that is the expression of a scalar. -/
def evaluate? (source : String) : Option StoredValue :=
  match Expr.ofText source with
  | .ok e => e.value?
  | .error _ => none

/-- The text that a key is. -/
def keyText? (source : String) : Option String := (evaluate? source).bind StoredValue.asText?

/-- The place of a store: the standard one has no text, and any other is looked up as an expression. -/
def StoreRef.place? (stores : Expr → Option Place) : StoreRef → Option Place
  | standard => some .standard
  | expr source =>
    match Expr.ofText source with
    | .ok e => stores e
    | .error _ => none

section

variable {source : String} {l : Literal} {v : StoredValue}

theorem evaluate?_of_readsAs (h : Expr.ReadsAs source l) : evaluate? source = l.value? := by
  obtain ⟨e, read, rfl⟩ := h
  rw [evaluate?, read]
  rfl

theorem evaluate?_of_ofText {e : Expr} (read : Expr.ofText source = .ok e) : evaluate? source = e.value? := by
  rw [evaluate?, read]

theorem keyText?_of_ofText {e : Expr} (read : Expr.ofText source = .ok e) : keyText? source = e.text? := by
  rw [keyText?, evaluate?_of_ofText read]
  rfl

/-- A key that was derived from a name is that name. -/
theorem keyText?_quoted (s : String) : keyText? (Text.quoted s) = some s := by
  have value : evaluate? (Text.quoted s) = some (.string s) := evaluate?_of_readsAs (Expr.readsAs_str s)
  rw [keyText?, value]
  rfl

/-- What has a value can be read. -/
theorem exists_ofText_of_evaluate? (h : evaluate? source = some v) : ∃ e, Expr.ofText source = .ok e := by
  unfold evaluate? at h
  split at h
  · next e read => exact ⟨e, read⟩
  · cases h

end

/-! ## Getters and setters -/

/-- The typed read; only a text may be missing. -/
def Read.value? (s : MemoryStore) (key : String) : Read → Option StoredValue
  | bool => some (.bool (s.bool key))
  | integer => some (.int (s.integer key))
  | float => some (.float (s.float key))
  | stringOrDefault => (s.text? key).map .string

/-- The getter's answer: the default when the key is absent and the typed read otherwise, which may fall back to the
default a second time. -/
def Getter.answer? (g : Getter) (stores : Expr → Option Place) (s : Stores) : Option StoredValue := do
  let store := s.store (← g.store.place? stores)
  let key ← keyText? g.key
  if store.contains key then
    (g.read.value? store key).or (if g.read.fallsBack then evaluate? g.default else none)
  else evaluate? g.default

/-- The stores after the setter has stored a value. -/
def Setter.after? (t : Setter) (stores : Expr → Option Place) (v : StoredValue) (s : Stores) : Option Stores := do
  let place ← t.store.place? stores
  let key ← keyText? t.key
  return s.replace ((s.store place).set key v) place

/-- The accessor does what the property does, to all stores. -/
structure Accessor.Implements (a : Accessor) (stores : Expr → Option Place) (p : Property) : Prop where
  place : a.get.store.place? stores = some p.place
  get : ∀ s, a.get.answer? stores s = some (p.get s)
  set : ∀ v s, a.set.after? stores v s = some (p.set v s)

/-! ## Code -/

/-- The place that a store has in code. -/
def StoreCode.place? (stores : Expr → Option Place) : StoreCode → Option Place
  | standard => some .standard
  | expr e => stores e

/-- A converted text is the same text. -/
def DefaultCode.value? : DefaultCode → Option StoredValue
  | plain e | converted e => e.value?

/-- What a store's method finds under a key, if there is a method of the name. -/
def MemoryStore.call? (s : MemoryStore) (key : String) : String → Option (Option StoredValue)
  | "bool" => some (some (.bool (s.bool key)))
  | "integer" => some (some (.int (s.integer key)))
  | "float" => some (some (.float (s.float key)))
  | "string" => some ((s.text? key).map .string)
  | _ => none

/-- A method while it runs: the stores, and the one that its variable is bound to. -/
structure Frame where
  stores : Stores
  bound : Option Place

/-- How a method goes on behind an instruction. -/
inductive Flow where
  | next (f : Frame)
  | returned (v : StoredValue) (s : Stores)

section

variable (stores : Expr → Option Place) (new : Option StoredValue)

/-- One instruction of a method that was given a new value, if it is a setter. -/
def Instruction.step? (f : Frame) : Instruction → Option Flow
  | inScope => some (.next f)
  | bindStore store => do return .next { f with bound := some (← store.place? stores) }
  | needKey key value => do
    let store := f.stores.store (← f.bound)
    if store.contains (← key.text?) then return .next f
    return .returned (← value.value?) f.stores
  | storeValue key => do
    let place ← f.bound
    let store := (f.stores.store place).set (← key.text?) (← new)
    return .next { f with stores := f.stores.replace store place }

/-- The answer of a call, or of its fallback where the call finds nothing. -/
def Call.answer? (f : Frame) (c : Call) : Option StoredValue := do
  let store := f.stores.store (← f.bound)
  let found ← store.call? (← c.key.text?) c.method
  found.or (c.fallback.bind DefaultCode.value?)

/-- What is returned by the rest of a body, if anything is, and the stores that it leaves. -/
def runFrom? (answer : Option Call) (f : Frame) : List Instruction → Option (Option StoredValue × Stores)
  | [] =>
    match answer with
    | none => some (none, f.stores)
    | some call => do return (some (← call.answer? f), f.stores)
  | i :: rest => do
    match ← i.step? stores new f with
    | .next f => runFrom? answer f rest
    | .returned v s => return (some v, s)

/-- Runs a body on stores. -/
def Body.run? (b : Body) (s : Stores) : Option (Option StoredValue × Stores) :=
  runFrom? stores new b.answer ⟨s, none⟩ b.instructions

end

section

variable {stores : Expr → Option Place} {r : StoreRef} {store : StoreCode} {a : Accessor} {get set : Body}

/-- A store has the place in code that its text has. -/
theorem StoreRef.IsReadAs.place?_eq (h : r.IsReadAs store) : store.place? stores = r.place? stores := by
  cases h with
  | standard => rfl
  | expr read => rw [StoreRef.place?, read]; rfl

theorem DefaultCode.value?_ofType (e : Expr) (t : ValueType) : (ofType e t).value? = e.value? := by
  cases t <;> rfl

/-- The call of a read finds what the read does, and has the fallback that the read has. -/
theorem Call.answer?_ofRead {key : Expr} {text : String} (known : key.text? = some text) (s : Stores) (place : Place)
    (value : DefaultCode) (read : Read) :
    (ofRead key value read).answer? ⟨s, some place⟩ =
      (read.value? (s.store place) text).or (if read.fallsBack then value.value? else none) := by
  cases read <;> simp [answer?, ofRead, known, MemoryStore.call?, Read.value?, Read.fallsBack]

/-- **The code of a getter answers as the accessor does**, and leaves the stores alone. -/
theorem Accessor.HasBodies.run?_getter (h : a.HasBodies get set) (s : Stores) :
    get.run? stores none s = (a.get.answer? stores s).map fun v => (some v, s) := by
  obtain @⟨store, -, key, value, -, readStore, readKey, readDefault, -, -⟩ := h
  simp only [Getter.answer?, ← readStore.place?_eq, keyText?_of_ofText readKey, evaluate?_of_ofText readDefault]
  simp only [Body.run?, Body.getter, runFrom?, Instruction.step?, DefaultCode.value?_ofType]
  cases store.place? stores with
  | none => rfl
  | some place =>
    cases known : key.text? with
    | none => rfl
    | some text =>
      simp only [Option.bind_eq_bind, Option.pure_def, Option.bind_some]
      by_cases held : (s.store place).contains text = true
      · simp only [held, if_true, Option.bind_some, Call.answer?_ofRead known, DefaultCode.value?_ofType]
        exact (Option.map_eq_bind ..).symm
      · simp only [held]
        cases value.value? <;> rfl

/-- **The code of a setter changes the stores as the accessor does**, and answers nothing. -/
theorem Accessor.HasBodies.run?_setter (h : a.HasBodies get set) (v : StoredValue) (s : Stores) :
    set.run? stores (some v) s = (a.set.after? stores v s).map fun after => (none, after) := by
  obtain @⟨-, store, -, -, key, -, -, -, readStore, readKey⟩ := h
  simp only [Setter.after?, ← readStore.place?_eq, keyText?_of_ofText readKey]
  simp only [Body.run?, Body.setter, runFrom?, Instruction.step?]
  cases store.place? stores with
  | none => rfl
  | some place => cases key.text? <;> rfl

end

/-! ## Specs of properties -/

def StoredValue.valueType : StoredValue → ValueType
  | bool _ => .bool
  | int _ => .int
  | float _ => .float
  | string _ => .string

/-- The texts of the spec stand for the parts of the property. -/
structure PropertySpec.Declares (s : PropertySpec) (stores : Expr → Option Place) (p : Property) : Prop where
  key : keyText? (resolveKey s.key s.name) = some p.key
  store : (StoreRef.ofSource? s.store).place? stores = some p.place
  default : evaluate? s.default.source = some p.default
  type : s.default.literal.HasType p.default.valueType

variable {stores : Expr → Option Place} {spec : PropertySpec} {a : Accessor} {p : Property}

/-- Reading as the default's type, with the default behind a missing text, is the read of the property. -/
theorem Read.value?_or_default (s : MemoryStore) (key : String) (d : StoredValue) :
    ((ofType d.valueType).value? s key).or (if (ofType d.valueType).fallsBack then some d else none) =
      some (s.readAs key d) := by
  cases d with
  | bool | int | float => rfl
  | string d =>
    show ((s.text? key).map StoredValue.string).or (some (.string d)) = some (.string ((s.text? key).getD d))
    cases s.text? key <;> rfl

/-- A store that has a place can be written in code. -/
theorem StoreRef.exists_isReadAs {r : StoreRef} {place : Place} (h : r.place? stores = some place) :
    ∃ store, r.IsReadAs store := by
  cases r with
  | standard => exact ⟨_, .standard⟩
  | expr source =>
    cases read : Expr.ofText source with
    | ok e => exact ⟨_, .expr read⟩
    | error e =>
      rw [StoreRef.place?, read] at h
      cases h

namespace PropertySpec

/-- The key is the given one, or else the quoted name. -/
theorem Describes.key_eq (h : spec.Describes a) : a.get.key = resolveKey spec.key spec.name := by
  cases given : spec.key with
  | none => exact h.derivedKey given
  | some source => exact h.givenKey source given

/-- The store is the given one, or else the standard one. -/
theorem Describes.store_eq (h : spec.Describes a) : a.get.store = .ofSource? spec.store := by
  cases given : spec.store with
  | none => exact h.standardStore given
  | some source => exact h.givenStore source given

section

variable (h : spec.Describes a) (declares : spec.Declares stores p)

include h declares

theorem Describes.place?_store : a.get.store.place? stores = some p.place := by
  rw [h.store_eq]
  exact declares.store

/-- **An accessor means the property that its spec declares.** -/
theorem Describes.implements : a.Implements stores p := by
  have place := h.place?_store declares
  have key : keyText? a.get.key = some p.key := by
    rw [h.key_eq]
    exact declares.key
  have default : evaluate? a.get.default = some p.default := by
    rw [h.default]
    exact declares.default
  have read : a.get.read = .ofType p.default.valueType := by
    rw [Read.mem_table_iff.1 h.read, h.type.unique declares.type]
  refine ⟨place, fun s => ?_, fun v s => ?_⟩
  · have answer : a.get.answer? stores s =
        if (s.store p.place).contains p.key then
          (a.get.read.value? (s.store p.place) p.key).or (if a.get.read.fallsBack then some p.default else none)
        else some p.default := by
      simp only [Getter.answer?, place, key, default, Option.bind_eq_bind, Option.bind_some]
    rw [answer, read, Read.value?_or_default, Property.get]
    split <;> rfl
  · have setPlace : a.set.store.place? stores = some p.place := by
      rw [h.sameStore]
      exact place
    have setKey : keyText? a.set.key = some p.key := by
      rw [h.sameKey]
      exact key
    simp only [Setter.after?, setPlace, setKey, Option.bind_eq_bind, Option.bind_some]
    rfl

/-- Every text that stands for a value or a store can be read as code. -/
theorem Describes.exists_hasBodies : ∃ get set, a.HasBodies get set := by
  obtain ⟨value, isText, -⟩ := Option.bind_eq_some_iff.1 declares.key
  rw [← h.key_eq] at isText
  obtain ⟨store, readStore⟩ := StoreRef.exists_isReadAs (h.place?_store declares)
  obtain ⟨key, readKey⟩ := exists_ofText_of_evaluate? isText
  obtain ⟨default, readDefault⟩ := exists_ofText_of_evaluate? declares.default
  rw [← h.default] at readDefault
  have readSetStore : a.set.store.IsReadAs store := by
    rw [h.sameStore]
    exact readStore
  have readSetKey : Expr.ofText a.set.key = .ok key := by
    rw [h.sameKey]
    exact readKey
  exact ⟨_, _, .intro readStore readKey readDefault readSetStore readSetKey⟩

end

end PropertySpec

/-- However a property is declared, the expansion gives an accessor that means it. -/
theorem Config.exists_implements {d : Declaration} (read : PropertySpec.ofDeclaration d = .ok spec)
    (complete : spec.Complete) (declares : spec.Declares stores p) (c : Config) :
    ∃ a, c.expand d = .ok a ∧ a.Implements stores p ∧ ∃ get set, a.HasBodies get set := by
  obtain ⟨a, built, describes⟩ := PropertySpec.accessor_of_complete complete
  refine ⟨a, ?_, describes.implements declares, describes.exists_hasBodies declares⟩
  rw [expand_eq_ok_iff, Declaration.accessor_of_read read]
  exact built

end StoredProperty
