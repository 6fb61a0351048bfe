import StoredProperty.Proofs.Store.History
import StoredProperty.Settings.Catalogue

/-!
# Properties and the histories of their cells

A cell is a key in one of the two stores. Getters, setters and operations on the stores themselves are steps, and each
is seen from one cell as an `Effect` (`Stores.value?_afterStep`), so that what a run leaves there is again what was
written last (`Stores.value?_runSteps_eq_some_iff`).
-/

namespace StoredProperty

namespace StoredValue

/-- A value read in the type of a default, which stands in for a text that is none. -/
def readAs (v : StoredValue) : StoredValue → StoredValue
  | .bool _ => .bool v.asBool
  | .int _ => .int v.asInteger
  | .float _ => .float v.asFloat
  | .string d => .string (v.asText?.getD d)

/-- A value of the type of the default is read as it is. -/
theorem readAs_of_kind {v d : StoredValue} (h : v.kind = d.kind) : v.readAs d = v := by
  cases v <;> cases d <;> first | rfl | cases h

end StoredValue

/-- What is read of a held key is its value in the type of the default. -/
theorem MemoryStore.readAs_of_held {s : MemoryStore} {key : String} {v : StoredValue} (h : s.value? key = some v)
    (d : StoredValue) : s.readAs key d = v.readAs d := by
  cases d <;> simp [MemoryStore.readAs, StoredValue.readAs, bool, integer, float, text?, h]

/-- What is done to the stores: a getter, a setter, or an operation on one of them. -/
inductive Step where
  | get (p : Property)
  | set (p : Property) (v : StoredValue)
  | operate (place : Place) (op : StoreOperation)

namespace Stores

/-- Operations on one of the stores, one after another. -/
def afterAll (s : Stores) (place : Place) (ops : List StoreOperation) : Stores :=
  ops.foldl (fun s op => s.after place op) s

def afterStep (s : Stores) : Step → Stores
  | .get p => s.afterAll p.place (p.asking s)
  | .set p v => p.set v s
  | .operate place op => s.after place op

/-- A run of steps: the stores at the end. -/
def runSteps (s : Stores) (steps : List Step) : Stores := steps.foldl afterStep s

@[simp] theorem runSteps_nil (s : Stores) : s.runSteps [] = s := rfl

@[simp] theorem runSteps_cons (s : Stores) (step : Step) (steps : List Step) :
    s.runSteps (step :: steps) = (s.afterStep step).runSteps steps := rfl

theorem runSteps_snoc (s : Stores) (steps : List Step) (step : Step) :
    s.runSteps (steps ++ [step]) = (s.runSteps steps).afterStep step := by
  simp [runSteps, List.foldl_append]

/-- What stands in a cell. -/
def value? (s : Stores) (place : Place) (key : String) : Option StoredValue := (s.store place).value? key

theorem contains_store (s : Stores) (place : Place) (key : String) :
    (s.store place).contains key = (s.value? place key).isSome := rfl

/-- Nothing has been done to the stores yet. -/
structure IsNew (s : Stores) : Prop where
  own : s.own.IsNew
  standard : s.standard.IsNew

/-- In new stores all cells are empty. -/
theorem IsNew.value? {s : Stores} (new : s.IsNew) (place : Place) (key : String) : s.value? place key = none := by
  cases place with
  | own => exact new.own.value? key
  | standard => exact new.standard.value? key

end Stores

namespace Step

/-- The step may change what stands in the cell. -/
def writes (place : Place) (key : String) : Step → Bool
  | get _ => false
  | set p _ => p.place = place && p.key = key
  | operate q op => q = place && op.writes key

/-- The effect on what stands in the cell. -/
def effect (place : Place) (key : String) : Step → Effect
  | get _ => .kept
  | set p v => if p.place = place ∧ p.key = key then .put v else .kept
  | operate q op => if q = place then op.effect key else .kept

/-- The step writes the value into the cell, by the setter of a property or by an operation on the store. -/
inductive Puts (place : Place) (key : String) (v : StoredValue) : Step → Prop
  | setter {p : Property} (here : p.place = place) (same : p.key = key) : Puts place key v (set p v)
  | operation : Puts place key v (operate place (.set key v))

/-- A step leaves a cell alone when it does not write it. -/
theorem effect_eq_kept_iff {place : Place} {key : String} {step : Step} :
    step.effect place key = .kept ↔ step.writes place key = false := by
  cases step with
  | get p => simp [effect, writes]
  | set p v => simp [effect, writes]
  | operate q op => by_cases h : q = place <;> simp [effect, writes, h, StoreOperation.effect_eq_kept_iff]

theorem effect_eq_put_iff {place : Place} {key : String} {step : Step} {v : StoredValue} :
    step.effect place key = .put v ↔ step.Puts place key v := by
  constructor
  · intro h
    cases step with
    | get p => cases h
    | set p w =>
      by_cases cell : p.place = place ∧ p.key = key
      · obtain rfl : w = v := by simpa [effect, cell] using h
        exact .setter cell.1 cell.2
      · simp [effect, cell] at h
    | operate q op =>
      by_cases here : q = place
      · subst here
        have puts : op.effect key = .put v := by simpa [effect] using h
        rw [StoreOperation.effect_eq_put_iff.1 puts]
        exact .operation
      · simp [effect, here] at h
  · rintro (⟨rfl, rfl⟩ | _) <;> simp [effect, StoreOperation.effect]

end Step

/-- The value is the last one that anyone wrote into the cell, and nothing was written there since. -/
def LastWritten (place : Place) (key : String) (v : StoredValue) (past : List Step) : Prop :=
  ∃ before step after, past = before ++ step :: after ∧ step.Puts place key v ∧
    ∀ later ∈ after, later.writes place key = false

/-- The last write in a run is the last effect that puts something into the cell. -/
theorem lastWritten_iff_lastPut {place : Place} {key : String} {v : StoredValue} {past : List Step} :
    LastWritten place key v past ↔ Effect.LastPut (Step.effect place key) v past := by
  simp only [LastWritten, Effect.LastPut, Step.effect_eq_kept_iff, Step.effect_eq_put_iff]

namespace Stores

variable (s : Stores)

/-- An operation on a store, seen from a cell. -/
theorem value?_after (q : Place) (op : StoreOperation) (place : Place) (key : String) :
    (s.after q op).value? place key = ((Step.operate q op).effect place key).apply (s.value? place key) := by
  by_cases h : q = place
  · subst h
    simp [after, value?, Step.effect, MemoryStore.value?_after]
  · simp [after, value?, Step.effect, h, store_replace_of_ne s _ (Ne.symm h), Effect.apply]

/-- An operation that writes no key changes neither store. -/
theorem after_of_writes_nothing (place : Place) {op : StoreOperation} (h : ∀ key, op.writes key = false) :
    s.after place op = s := by
  rw [after, MemoryStore.after_of_writes_nothing _ h]
  cases place <;> rfl

/-- A getter only asks. -/
theorem afterStep_get (p : Property) : s.afterStep (.get p) = s := by
  have contains : s.after p.place (.contains p.key) = s := s.after_of_writes_nothing _ fun _ => rfl
  have reading : s.after p.place p.reading = s := by
    refine s.after_of_writes_nothing _ fun key => ?_
    unfold Property.reading
    cases p.default <;> rfl
  simp only [afterStep, Property.asking]
  split <;> simp [afterAll, contains, reading]

/-- **One step, seen from one cell.** -/
theorem value?_afterStep (step : Step) (place : Place) (key : String) :
    (s.afterStep step).value? place key = (step.effect place key).apply (s.value? place key) := by
  cases step with
  | get p => rw [afterStep_get]; rfl
  | set p v =>
    rw [afterStep, Property.set, value?_after]
    by_cases h : p.place = place <;> simp [Step.effect, StoreOperation.effect, Property.setting, h]
  | operate q op => exact s.value?_after q op place key

/-- A run, seen from one cell. -/
theorem value?_runSteps (steps : List Step) (place : Place) (key : String) :
    (s.runSteps steps).value? place key = Effect.left (Step.effect place key) (s.value? place key) steps := by
  induction steps generalizing s with
  | nil => rfl
  | cons step steps ih => rw [runSteps_cons, ih, value?_afterStep]; rfl

variable {s}

/-- In a cell stands the value that was written last. -/
theorem value?_runSteps_eq_some_iff (new : s.IsNew) {past : List Step} {place : Place} {key : String}
    {v : StoredValue} : (s.runSteps past).value? place key = some v ↔ LastWritten place key v past := by
  rw [value?_runSteps, new.value?, Effect.left_eq_some_iff, lastWritten_iff_lastPut]

end Stores

end StoredProperty
