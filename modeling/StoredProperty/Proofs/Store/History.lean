import Mathlib.Data.List.Induction
import StoredProperty.Store.Operation

/-!
# Histories of a key

What a run does to a store is settled key by key. Seen from one key an operation keeps what is there, puts a value, or
drops it (`Effect`); `MemoryStore.value?_after` says so of one operation. A history of steps then leaves, in a cell that
was empty, the value that was put last and that every later step kept (`Effect.left_eq_some_iff`, by induction on the
last step), and `MemoryStore.value?_run_eq_some_iff` is this law for runs of a store.
-/

namespace StoredProperty

/-- What a step does to a cell. -/
inductive Effect where
  | kept
  | put (v : StoredValue)
  | dropped
  deriving DecidableEq

namespace Effect

def apply : Effect → Option StoredValue → Option StoredValue
  | kept, x => x
  | put v, _ => some v
  | dropped, _ => none

section Left

variable {σ : Type} {effect : σ → Effect} {past : List σ} {last : σ} {v : StoredValue}

/-- What the steps of a history leave in a cell that holds `x` at first. -/
def left (effect : σ → Effect) (x : Option StoredValue) (past : List σ) : Option StoredValue :=
  past.foldl (fun x step => (effect step).apply x) x

/-- Some step puts the value, and every later step keeps it. -/
def LastPut (effect : σ → Effect) (v : StoredValue) (past : List σ) : Prop :=
  ∃ before step after, past = before ++ step :: after ∧ effect step = put v ∧ ∀ s ∈ after, effect s = kept

@[simp] theorem left_nil (x : Option StoredValue) : left effect x [] = x := rfl

@[simp] theorem left_snoc (x : Option StoredValue) :
    left effect x (past ++ [last]) = (effect last).apply (left effect x past) := by
  simp [left, List.foldl_append]

/-- Steps that keep the cell do not show in what is left of it. -/
theorem left_filter (shown : σ → Bool) (hidden : ∀ s, shown s = false → effect s = kept) (x : Option StoredValue) :
    left effect x (past.filter shown) = left effect x past := by
  induction past using List.reverseRecOn with
  | nil => rfl
  | append_singleton past last ih =>
    rw [List.filter_append, left_snoc, ← ih]
    cases h : shown last with
    | true => simp [h]
    | false => simp [h, hidden last h, apply]

theorem not_lastPut_nil : ¬ LastPut effect v [] := by
  rintro ⟨before, step, after, parts, -⟩
  simp at parts

/-- The last step puts something into the cell, or leaves what was put there before. -/
theorem lastPut_snoc :
    LastPut effect v (past ++ [last]) ↔ effect last = put v ∨ effect last = kept ∧ LastPut effect v past := by
  constructor
  · rintro ⟨before, step, after, parts, puts, keep⟩
    rcases after.eq_nil_or_concat with rfl | ⟨after, s, rfl⟩
    · obtain ⟨-, rfl⟩ := List.append_singleton_inj.1 parts
      exact .inl puts
    · rw [List.concat_eq_append, ← List.cons_append, ← List.append_assoc] at parts
      obtain ⟨rfl, rfl⟩ := List.append_singleton_inj.1 parts
      exact .inr ⟨keep _ (by simp), before, step, after, rfl, puts, fun s hs => keep s (by simp [hs])⟩
  · rintro (puts | ⟨keeps, before, step, after, rfl, puts, keep⟩)
    · exact ⟨past, last, [], rfl, puts, by simp⟩
    · refine ⟨before, step, after ++ [last], by simp, puts, fun s hs => ?_⟩
      rcases List.mem_append.1 hs with hs | hs
      · exact keep s hs
      · rw [List.mem_singleton.1 hs, keeps]

/-- A history leaves a value in an empty cell exactly when it is the last one that was put there. -/
theorem left_eq_some_iff : left effect none past = some v ↔ LastPut effect v past := by
  induction past using List.reverseRecOn generalizing v with
  | nil => simp [not_lastPut_nil]
  | append_singleton past last ih =>
    rw [left_snoc, lastPut_snoc, ← ih]
    cases effect last <;> simp [apply]

end Left

end Effect

namespace StoreOperation

/-- The operation may change what stands under the key; all others ask about it, or are about other keys. -/
def writes (key : String) : StoreOperation → Bool
  | set k _ | remove k => k = key
  | clear => true
  | _ => false

/-- The effect on what stands under the key. -/
def effect (key : String) : StoreOperation → Effect
  | set k v => if k = key then .put v else .kept
  | remove k => if k = key then .dropped else .kept
  | clear => .dropped
  | _ => .kept

/-- An operation leaves a key alone when it does not write it. -/
theorem effect_eq_kept_iff {key : String} {op : StoreOperation} : op.effect key = .kept ↔ op.writes key = false := by
  cases op <;> simp [effect, writes]

/-- Only setting a key puts something there. -/
theorem effect_eq_put_iff {key : String} {op : StoreOperation} {v : StoredValue} :
    op.effect key = .put v ↔ op = .set key v := by
  cases op with
  | set k w => simp only [effect]; split <;> simp_all
  | remove k => simp only [effect]; split <;> simp
  | _ => simp [effect]

end StoreOperation

/-- The value is the last one that was set under the key, and nothing was written there since. -/
def LastSet (key : String) (v : StoredValue) (past : List StoreOperation) : Prop :=
  ∃ before after, past = before ++ .set key v :: after ∧ ∀ op ∈ after, op.writes key = false

theorem lastSet_iff_lastPut {key : String} {v : StoredValue} {past : List StoreOperation} :
    LastSet key v past ↔ Effect.LastPut (StoreOperation.effect key) v past := by
  simp only [LastSet, Effect.LastPut, StoreOperation.effect_eq_kept_iff, StoreOperation.effect_eq_put_iff]
  constructor
  · rintro ⟨before, after, parts, keep⟩
    exact ⟨before, _, after, parts, rfl, keep⟩
  · rintro ⟨before, _, after, parts, rfl, keep⟩
    exact ⟨before, after, parts, keep⟩

namespace MemoryStore

/-- Nothing has been done to the store yet. -/
inductive IsNew : MemoryStore → Prop
  | empty : IsNew .empty
  | named (name : String) : IsNew (.named name)

/-- A new store holds nothing. -/
theorem IsNew.value? {s : MemoryStore} (new : s.IsNew) (key : String) : s.value? key = none := by
  cases new <;> rfl

/-- **One operation, seen from one key.** -/
theorem value?_after (s : MemoryStore) (op : StoreOperation) (key : String) :
    (s.after op).value? key = (op.effect key).apply (s.value? key) := by
  cases op with
  | set k v =>
    by_cases h : k = key
    · subst h
      simp [after, StoreOperation.effect, Effect.apply]
    · simp [after, StoreOperation.effect, Effect.apply, h, value?_set_of_ne s (Ne.symm h)]
  | remove k =>
    by_cases h : k = key
    · subst h
      simp [after, StoreOperation.effect, Effect.apply]
    · simp [after, StoreOperation.effect, Effect.apply, h, value?_remove_of_ne s (Ne.symm h)]
  | _ => rfl

/-- A run, seen from one key. -/
theorem value?_run (s : MemoryStore) (ops : List StoreOperation) (key : String) :
    (s.run ops).value? key = Effect.left (StoreOperation.effect key) (s.value? key) ops := by
  induction ops generalizing s with
  | nil => rfl
  | cons op ops ih => rw [run_cons, ih, value?_after]; rfl

/-- Under a key stands the value that was set last and not written over since. -/
theorem value?_run_eq_some_iff {s : MemoryStore} (new : s.IsNew) {past : List StoreOperation} {key : String}
    {v : StoredValue} : (s.run past).value? key = some v ↔ LastSet key v past := by
  rw [value?_run, new.value?, Effect.left_eq_some_iff, lastSet_iff_lastPut]

/-- An operation that does not write a key leaves what stands under it. -/
theorem value?_after_of_not_writes (s : MemoryStore) {op : StoreOperation} {key : String}
    (h : op.writes key = false) : (s.after op).value? key = s.value? key := by
  rw [value?_after, StoreOperation.effect_eq_kept_iff.2 h]
  rfl

/-- An operation that writes no key at all changes nothing. -/
theorem after_of_writes_nothing (s : MemoryStore) {op : StoreOperation} (h : ∀ key, op.writes key = false) :
    s.after op = s := by
  cases op with
  | set k v => simpa [StoreOperation.writes] using h k
  | remove k => simpa [StoreOperation.writes] using h k
  | clear => simpa [StoreOperation.writes] using h ""
  | _ => rfl

theorem name_run (s : MemoryStore) (ops : List StoreOperation) : (s.run ops).name = s.name := by
  induction ops generalizing s with
  | nil => rfl
  | cons op ops ih => rw [run_cons, ih, name_after]

end MemoryStore

end StoredProperty
