import Mathlib.Data.List.Forall2
import StoredProperty.Log.Record
import StoredProperty.Proofs.Store.FiniteMap

/-!
# The journal of a store

The events of a run, one behind the other, are its journal. Whoever has the journal and nothing else can replay it: a
set puts a kind under a key, a removal takes it away, and clearing takes all away. `MemoryStore.replayFrom_events` says
that replaying the events of one operation leads from the kinds that are held before it to those that are held after
it, and `MemoryStore.replayFrom_journal` carries this through a run. What a removal says it found is what a replay of
the events in front of it would find (`MemoryStore.found_of_journal`).
-/

namespace StoredProperty

open Log

/-- The kind of the value under each key that is held. -/
abbrev HeldKinds := String → Option StoredValue.Kind

namespace HeldKinds

def empty : HeldKinds := fun _ => none

/-- The kinds after a change. Whether a removal says that it found something is not looked at. -/
def after (held : HeldKinds) : StoreChange → HeldKinds
  | .set key kind => Function.update held key (some kind)
  | .removed key _ => Function.update held key none
  | .cleared => empty

/-- The kinds after a journal, when it begins with some that are held. -/
def replayFrom (held : HeldKinds) (journal : List StoreEvent) : HeldKinds :=
  journal.foldl (fun held e => held.after e.change) held

/-- The kinds that a journal tells of, from the beginning. -/
def replay (journal : List StoreEvent) : HeldKinds := empty.replayFrom journal

variable (held : HeldKinds)

@[simp] theorem replayFrom_nil : held.replayFrom [] = held := rfl

@[simp] theorem replayFrom_cons (e : StoreEvent) (journal : List StoreEvent) :
    held.replayFrom (e :: journal) = (held.after e.change).replayFrom journal := rfl

theorem replayFrom_append (a b : List StoreEvent) : held.replayFrom (a ++ b) = (held.replayFrom a).replayFrom b :=
  List.foldl_append

end HeldKinds

/-! ## Events and their records -/

namespace StoredValue.Kind

def all : List Kind := [bool, int, float, string]

def ofName? (name : String) : Option Kind := all.find? (·.name = name)

theorem ofName?_name (k : Kind) : ofName? k.name = some k := by cases k <;> rfl

end StoredValue.Kind

namespace Log.Record

def text? (r : Record) (name : String) : Option String :=
  match r.fields.lookup name with
  | some (.text s) => some s
  | _ => none

def flag? (r : Record) (name : String) : Option Bool :=
  match r.fields.lookup name with
  | some (.flag b) => some b
  | _ => none

end Log.Record

/-- The change that a record tells of, by its message. -/
def StoreChange.ofRecord? (r : Record) : Option StoreChange :=
  if r.message = "set" then do return .set (← r.text? "key") (← StoredValue.Kind.ofName? (← r.text? "kind"))
  else if r.message = "remove" then do return .removed (← r.text? "key") (← r.flag? "found")
  else if r.message = "cleared" then some .cleared
  else none

/-- The event that a record was written for. -/
def StoreEvent.ofRecord? (r : Record) : Option StoreEvent :=
  (StoreChange.ofRecord? r).map fun change => ⟨r.text? "store", change⟩

/-- A record tells all of its event. -/
theorem StoreEvent.ofRecord?_record (e : StoreEvent) : ofRecord? e.record = some e := by
  obtain ⟨store, change⟩ := e
  cases change with
  | set key kind =>
    have kind := kind.ofName?_name
    cases store <;> simp [ofRecord?, StoreChange.ofRecord?, record, optionalText, Record.text?, List.lookup_cons, kind]
  | removed key found =>
    cases store <;>
      simp [ofRecord?, StoreChange.ofRecord?, record, optionalText, Record.text?, Record.flag?, List.lookup_cons]
  | cleared => cases store <;> simp [ofRecord?, StoreChange.ofRecord?, record, optionalText, Record.text?]

/-! ## Operations and their events -/

namespace StoreOperation

/-- The operation is one of the three that may change a store. -/
def changes : StoreOperation → Bool
  | set .. | remove _ | clear => true
  | _ => false

/-- The event tells of the operation, done to a store with the given name. -/
inductive ToldBy (store : Option String) : StoreOperation → StoreEvent → Prop
  | set (key : String) (v : StoredValue) : ToldBy store (.set key v) ⟨store, .set key v.kind⟩
  | remove (key : String) (found : Bool) : ToldBy store (.remove key) ⟨store, .removed key found⟩
  | clear : ToldBy store .clear ⟨store, .cleared⟩

end StoreOperation

namespace MemoryStore

open StoreOperation

variable (s : MemoryStore)

/-- The kinds of the values that a store holds. -/
def kinds : HeldKinds := fun key => (s.value? key).map StoredValue.kind

/-- The events of a run, in order. -/
def journal (s : MemoryStore) : List StoreOperation → List StoreEvent
  | [] => []
  | op :: ops => s.events op ++ (s.after op).journal ops

@[simp] theorem journal_nil : s.journal [] = [] := rfl

@[simp] theorem journal_cons (op : StoreOperation) (ops : List StoreOperation) :
    s.journal (op :: ops) = s.events op ++ (s.after op).journal ops := rfl

/-- The journal of a run goes on where that of its first part ended. -/
theorem journal_append (a b : List StoreOperation) : s.journal (a ++ b) = s.journal a ++ (s.run a).journal b := by
  induction a generalizing s with
  | nil => rfl
  | cons op a ih => simp [ih]

/-- An operation that changes the store makes one event, which tells of it. -/
theorem events_of_changes {op : StoreOperation} (h : op.changes = true) :
    ∃ e, s.events op = [e] ∧ op.ToldBy s.name e := by
  cases op with
  | set key v => exact ⟨_, rfl, .set key v⟩
  | remove key => exact ⟨_, rfl, .remove key _⟩
  | clear => exact ⟨_, rfl, .clear⟩
  | _ => cases h

/-- An operation that asks makes no event. -/
theorem events_of_asks {op : StoreOperation} (h : op.changes = false) : s.events op = [] := by
  cases op with
  | set | remove | clear => cases h
  | _ => rfl

/-- The events of a run are those of its changes, one for each. -/
theorem forall₂_toldBy_journal (ops : List StoreOperation) :
    List.Forall₂ (ToldBy s.name) (ops.filter changes) (s.journal ops) := by
  induction ops generalizing s with
  | nil => exact .nil
  | cons op ops ih =>
    have rest := ih (s.after op)
    rw [name_after] at rest
    cases h : op.changes with
    | true =>
      obtain ⟨e, one, told⟩ := s.events_of_changes h
      rw [List.filter_cons_of_pos h, journal_cons, one]
      exact .cons told rest
    | false =>
      rw [List.filter_cons_of_neg (by simp [h]), journal_cons, s.events_of_asks h]
      exact rest

/-! ## Replaying -/

theorem kinds_set (key : String) (v : StoredValue) :
    (s.set key v).kinds = Function.update s.kinds key (some v.kind) := by
  funext other
  by_cases h : other = key
  · subst h
    simp [kinds]
  · simp [kinds, h, s.value?_set_of_ne h]

theorem kinds_remove (key : String) : (s.remove key).kinds = Function.update s.kinds key none := by
  funext other
  by_cases h : other = key
  · subst h
    simp [kinds]
  · simp [kinds, h, s.value?_remove_of_ne h]

/-- **One operation, replayed.** -/
theorem replayFrom_events (op : StoreOperation) : s.kinds.replayFrom (s.events op) = (s.after op).kinds := by
  cases op with
  | set key v => exact (s.kinds_set key v).symm
  | remove key => exact (s.kinds_remove key).symm
  | clear => rfl
  | _ => rfl

/-- A run, replayed. -/
theorem replayFrom_journal (ops : List StoreOperation) : s.kinds.replayFrom (s.journal ops) = (s.run ops).kinds := by
  induction ops generalizing s with
  | nil => rfl
  | cons op ops ih => rw [journal_cons, HeldKinds.replayFrom_append, replayFrom_events, ih, run_cons]

variable {s}

theorem IsNew.kinds (new : s.IsNew) : s.kinds = HeldKinds.empty := by
  funext key
  simp [MemoryStore.kinds, new.value?, HeldKinds.empty]

theorem isSome_kinds (s : MemoryStore) (key : String) : (s.kinds key).isSome = s.contains key := Option.isSome_map

/-- A removal in a journal has found the key when the events in front of it say that it is held. -/
theorem found_of_journal {ops : List StoreOperation} {before after : List StoreEvent} {store : Option String}
    {key : String} {found : Bool} (parts : s.journal ops = before ++ ⟨store, .removed key found⟩ :: after) :
    found = (s.kinds.replayFrom before key).isSome := by
  induction ops generalizing s before with
  | nil => simp at parts
  | cons op ops ih =>
    rw [journal_cons] at parts
    cases h : op.changes with
    | false =>
      have same : (s.after op).kinds = s.kinds := by
        rw [← replayFrom_events, s.events_of_asks h, HeldKinds.replayFrom_nil]
      rw [s.events_of_asks h, List.nil_append] at parts
      rw [← same]
      exact ih parts
    | true =>
      obtain ⟨e, one, told⟩ := s.events_of_changes h
      rw [one, List.singleton_append] at parts
      cases before with
      | nil =>
        -- the removal is the operation itself, which looks at the store before it changes it
        rw [List.nil_append] at parts
        obtain ⟨rfl, -⟩ := List.cons.inj parts
        cases told
        have own : found = s.contains key := by simpa [events] using one.symm
        rw [own, HeldKinds.replayFrom_nil, isSome_kinds]
      | cons first before =>
        rw [List.cons_append] at parts
        obtain ⟨rfl, rest⟩ := List.cons.inj parts
        have next : s.kinds.after e.change = (s.after op).kinds := by
          rw [← replayFrom_events, one]
          rfl
        rw [HeldKinds.replayFrom_cons, next]
        exact ih rest

/-- **The journal is faithful.** After any run of a new store its events, replayed from nothing, tell which keys are
held and of what kind the values are; each removal says truly whether the key was held just before. Every change has
one event, which carries the store's name, and a question has none; a further operation adds its events behind the
others, and the record of an event tells all of it. -/
theorem journal_faithful (new : s.IsNew) (past : List StoreOperation) :
    (∀ key, HeldKinds.replay (s.journal past) key = ((s.run past).value? key).map StoredValue.kind) ∧
    (∀ key, key ∈ (s.run past).keys ↔ (HeldKinds.replay (s.journal past) key).isSome = true) ∧
    (∀ before store key found after, s.journal past = before ++ ⟨store, .removed key found⟩ :: after →
      (found = true ↔ (HeldKinds.replay before key).isSome = true)) ∧
    -- which events there are
    List.Forall₂ (ToldBy s.name) (past.filter changes) (s.journal past) ∧
    (∀ op, s.journal (past ++ [op]) = s.journal past ++ (s.run past).events op) ∧
    ∀ e ∈ s.journal past, StoreEvent.ofRecord? e.record = some e := by
  have replayed : HeldKinds.replay (s.journal past) = (s.run past).kinds := by
    rw [HeldKinds.replay, ← new.kinds, replayFrom_journal]
  refine ⟨fun key => ?_, fun key => ?_, ?_, s.forall₂_toldBy_journal past, fun op => ?_, fun e _ => e.ofRecord?_record⟩
  · rw [replayed]
    rfl
  · rw [replayed, isSome_kinds, mem_keys_iff]
  · intro before store key found after parts
    have own := found_of_journal parts
    rw [new.kinds] at own
    rw [own]
    rfl
  · rw [journal_append, journal_cons, journal_nil, List.append_nil]

/-- A key that is removed twice, another that is overwritten with a value of another kind, and a store that is cleared
and filled again. -/
theorem journal_faithful_refilled :
    let past : List StoreOperation :=
      [.set "a" (.int 1), .contains "a", .remove "a", .remove "a", .set "b" (.string "x"), .set "b" (.float .one)]
    let again : List StoreOperation := past ++ [.clear, .set "a" (.bool true), .keys]
    let named (change : StoreChange) : StoreEvent := ⟨some "suite", change⟩
    (MemoryStore.named "suite").IsNew ∧
      (MemoryStore.named "suite").journal past =
        [named (.set "a" .int), named (.removed "a" true), named (.removed "a" false), named (.set "b" .string),
          named (.set "b" .float)] ∧
      (HeldKinds.replay [named (.set "a" .int)] "a").isSome = true ∧
      HeldKinds.replay ((MemoryStore.named "suite").journal past) "b" = some .float ∧
      HeldKinds.replay ((MemoryStore.named "suite").journal again) "b" = none ∧
      "a" ∈ ((MemoryStore.named "suite").run again).keys := by
  intro past again named
  have new : (MemoryStore.named "suite").IsNew := .named "suite"
  obtain ⟨kinds, -, found, -⟩ := journal_faithful new past
  obtain ⟨kinds', keys', -⟩ := journal_faithful new again
  refine ⟨new, rfl, ?_, ?_, ?_, ?_⟩
  · exact (found [named (.set "a" .int)] _ "a" true _ rfl).1 rfl
  · rw [kinds]
    rfl
  · rw [kinds']
    rfl
  · rw [keys']
    rfl

end MemoryStore

end StoredProperty
