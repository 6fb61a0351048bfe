import StoredProperty.Proofs.Store.History

/-!
# Stores as finite maps

A store answers as the finite map of its values does. `FiniteMap.Answers` says what a map may answer to each operation,
without looking at how entries are kept: typed reads go through the value under the key, and the keys are listed in the
order of their bytes, each one once. A map has one answer to each operation (`FiniteMap.Answers.unique`), so stores with
the same values under all keys cannot be told apart. `MemoryStore.run_refines_map` puts this together with what a
history leaves under each key.
-/

namespace StoredProperty

namespace Key

section Increasing

variable {α : Type} {f : α → String} {as bs : List α}

/-- What stands in a strict order does not repeat. -/
theorem nodup_of_increasing (h : as.Pairwise fun a b => Before (f a) (f b)) : as.Nodup := by
  refine h.imp ?_
  rintro a _ before rfl
  exact Before.irrefl _ before

/-- Lists in the order of their keys are equal when they have the same members. -/
theorem eq_of_increasing (ha : as.Pairwise fun a b => Before (f a) (f b))
    (hb : bs.Pairwise fun a b => Before (f a) (f b)) (same : ∀ a, a ∈ as ↔ a ∈ bs) : as = bs := by
  have perm : as.Perm bs :=
    (List.perm_ext_iff_of_nodup (nodup_of_increasing ha) (nodup_of_increasing hb)).2 same
  refine perm.eq_of_pairwise (fun a b _ _ hab hba => ?_) ha hb
  exact absurd (hab.trans hba) (Before.irrefl _)

end Increasing

end Key

/-- In sorted entries a key is found where it stands. -/
theorem Entries.find?_eq_some_iff {entries : Entries} (sorted : entries.Sorted) {key : String} {v : StoredValue} :
    entries.find? key = some v ↔ (key, v) ∈ entries := by
  constructor
  · intro h
    obtain ⟨before, after, rfl, -⟩ := List.lookup_eq_some_iff.1 h
    simp
  · intro h
    obtain ⟨before, after, rfl⟩ := List.append_of_mem h
    refine List.lookup_eq_some_iff.2 ⟨before, after, rfl, fun e he => ?_⟩
    -- an earlier entry with the same key would stand before itself
    have earlier : Key.Before e.1 key := (List.pairwise_append.1 sorted).2.2 e he (key, v) (by simp)
    simp only [bne_iff_ne]
    rintro rfl
    exact Key.Before.irrefl _ earlier

namespace FiniteMap

/-- The keys that hold a value, in the order of their bytes and each one once. -/
structure ListsKeys (m : String → Option StoredValue) (keys : List String) : Prop where
  increasing : keys.Pairwise Key.Before
  distinct : keys.Nodup
  mem_iff : ∀ key, key ∈ keys ↔ (m key).isSome = true

/-- What a map with the given values and name may answer. An absent key reads as false, zero and no text. -/
inductive Answers (m : String → Option StoredValue) (name : Option String) : StoreOperation → StoreAnswer → Prop
  | set (key : String) (v : StoredValue) : Answers m name (.set key v) .done
  | clear : Answers m name .clear .done
  | value (key : String) : Answers m name (.value key) (.value (m key))
  | remove (key : String) : Answers m name (.remove key) (.value (m key))
  | contains (key : String) : Answers m name (.contains key) (.flag (m key).isSome)
  | bool (key : String) : Answers m name (.bool key) (.flag ((m key).elim false StoredValue.asBool))
  | integer (key : String) : Answers m name (.integer key) (.integer ((m key).elim 0 StoredValue.asInteger))
  | float (key : String) : Answers m name (.float key) (.float ((m key).elim .zero StoredValue.asFloat))
  | text (key : String) : Answers m name (.text key) (.text ((m key).bind StoredValue.asText?))
  | keys {keys : List String} (listed : ListsKeys m keys) : Answers m name .keys (.keys keys)
  | size {keys : List String} (listed : ListsKeys m keys) : Answers m name .size (.size keys.length)
  | isEmpty {b : Bool} (h : b = true ↔ ∀ key, m key = none) : Answers m name .isEmpty (.flag b)
  | name : Answers m name .name (.text name)
  | entries {es : Entries} (increasing : es.Sorted) (mem_iff : ∀ key v, (key, v) ∈ es ↔ m key = some v) :
      Answers m name .entries (.entries es)

variable {m : String → Option StoredValue}

/-- A map has one list of keys. -/
theorem ListsKeys.unique {ks ls : List String} (hk : ListsKeys m ks) (hl : ListsKeys m ls) : ks = ls :=
  Key.eq_of_increasing (f := id) hk.increasing hl.increasing fun key => (hk.mem_iff key).trans (hl.mem_iff key).symm

/-- A map has one answer to each operation, and only the answer to `name` depends on the name. -/
theorem Answers.unique {n n' : Option String} {op : StoreOperation} {a b : StoreAnswer} (ha : Answers m n op a)
    (hb : Answers m n' op b) (unnamed : op ≠ .name) : a = b := by
  cases ha with
  | set | clear | value | remove | contains | bool | integer | float | text => cases hb; rfl
  | keys listed =>
    cases hb with
    | keys listed' => rw [listed.unique listed']
  | size listed =>
    cases hb with
    | size listed' => rw [listed.unique listed']
  | isEmpty h =>
    cases hb with
    | isEmpty h' => rw [Bool.eq_iff_iff.2 (h.trans h'.symm)]
  | name => exact absurd rfl unnamed
  | entries increasing mem_iff =>
    cases hb with
    | entries increasing' mem_iff' =>
      have same := Key.eq_of_increasing (f := Prod.fst) increasing increasing' fun (key, v) =>
        (mem_iff key v).trans (mem_iff' key v).symm
      rw [same]

end FiniteMap

namespace MemoryStore

variable (s : MemoryStore)

/-- The entries are the map. -/
theorem mem_entries_iff (key : String) (v : StoredValue) : (key, v) ∈ s.entries ↔ s.value? key = some v :=
  (Entries.find?_eq_some_iff s.sorted).symm

/-- The keys are those that the store contains. -/
theorem mem_keys_iff (key : String) : key ∈ s.keys ↔ s.contains key = true := by
  rw [contains, Option.isSome_iff_exists, keys, List.mem_map]
  constructor
  · rintro ⟨⟨_, v⟩, mem, rfl⟩
    exact ⟨v, (s.mem_entries_iff _ v).1 mem⟩
  · rintro ⟨v, held⟩
    exact ⟨(key, v), (s.mem_entries_iff key v).2 held, rfl⟩

theorem listsKeys : FiniteMap.ListsKeys s.value? s.keys where
  increasing := s.keys_sorted
  distinct := Key.nodup_of_increasing (f := id) s.keys_sorted
  mem_iff := s.mem_keys_iff

/-! Typed reads of the value under a key. -/

theorem bool_eq (key : String) : s.bool key = (s.value? key).elim false StoredValue.asBool := by
  unfold bool
  cases s.value? key <;> rfl

theorem integer_eq (key : String) : s.integer key = (s.value? key).elim 0 StoredValue.asInteger := by
  unfold integer
  cases s.value? key <;> rfl

theorem float_eq (key : String) : s.float key = (s.value? key).elim .zero StoredValue.asFloat := by
  unfold float
  cases s.value? key <;> rfl

theorem size_eq : s.size = s.keys.length := (List.length_map _).symm

/-- A store is empty when it has no value under any key. -/
theorem isEmpty_iff : s.isEmpty = true ↔ ∀ key, s.value? key = none := by
  rw [isEmpty, List.isEmpty_iff]
  constructor
  · intro h key
    simp [value?, h, Entries.find?]
  · intro h
    rw [List.eq_nil_iff_forall_not_mem]
    rintro ⟨key, v⟩ mem
    have held := (s.mem_entries_iff key v).1 mem
    simp [h key] at held

variable {s} in
/-- A store is settled by its name and the values under all keys. -/
theorem eq_of_value? {t : MemoryStore} (name : s.name = t.name) (same : ∀ key, s.value? key = t.value? key) : s = t := by
  have entries : s.entries = t.entries :=
    Key.eq_of_increasing (f := Prod.fst) s.sorted t.sorted fun (key, v) => by
      rw [mem_entries_iff, mem_entries_iff, same]
  cases s
  cases t
  cases name
  cases entries
  rfl

variable {s} in
/-- Setting what a key holds changes nothing. -/
theorem set_of_held {key : String} {v : StoredValue} (held : s.value? key = some v) : s.set key v = s := by
  refine eq_of_value? rfl fun other => ?_
  by_cases same : other = key
  · rw [same, value?_set_self, held]
  · exact value?_set_of_ne s same v

/-- A store answers as the map of its values. -/
theorem answers_answer (op : StoreOperation) : FiniteMap.Answers s.value? s.name op (s.answer op) := by
  cases op with
  | set key v => exact .set key v
  | remove key => exact .remove key
  | clear => exact .clear
  | value key => exact .value key
  | contains key => exact .contains key
  | bool key =>
    rw [answer, bool_eq]
    exact .bool key
  | integer key =>
    rw [answer, integer_eq]
    exact .integer key
  | float key =>
    rw [answer, float_eq]
    exact .float key
  | text key => exact .text key
  | keys => exact .keys s.listsKeys
  | size =>
    rw [answer, size_eq]
    exact .size s.listsKeys
  | isEmpty => exact .isEmpty s.isEmpty_iff
  | name => exact .name
  | entries => exact .entries s.sorted s.mem_entries_iff

/-- Stores with the same values keep the same values, whatever is done to both. -/
theorem value?_run_congr {s t : MemoryStore} (same : ∀ key, s.value? key = t.value? key) (ops : List StoreOperation) :
    (s.run ops).value? = (t.run ops).value? := by
  funext key
  rw [value?_run, value?_run, same]

/-- Stores with the same values cannot be told apart without asking for their names. -/
theorem answer_run_congr {s t : MemoryStore} (same : ∀ key, s.value? key = t.value? key) (later : List StoreOperation)
    {op : StoreOperation} (unnamed : op ≠ .name) : (s.run later).answer op = (t.run later).answer op := by
  have hs := (s.run later).answers_answer op
  rw [value?_run_congr same] at hs
  exact hs.unique ((t.run later).answers_answer op) unnamed

/-- **A store is a finite map.** After any run of a new store a key holds the value that was set last and not removed or
cleared since; every operation is answered as the map of these values answers it; what does not write a key leaves it
alone, and what writes none leaves the store alone. Runs that leave the same values are then told apart by no later
operation but `name`. -/
theorem run_refines_map {s : MemoryStore} (new : s.IsNew) (past : List StoreOperation) :
    (∀ key v, (s.run past).value? key = some v ↔ LastSet key v past) ∧
    (∀ op, FiniteMap.Answers (s.run past).value? s.name op ((s.run past).answer op)) ∧
    (∀ op key, op.writes key = false → ((s.run past).after op).value? key = (s.run past).value? key) ∧
    (∀ op, (∀ key, op.writes key = false) → (s.run past).after op = s.run past) ∧
    ∀ t : MemoryStore, t.IsNew → ∀ other, (∀ key, (t.run other).value? key = (s.run past).value? key) →
      ∀ later op, op ≠ .name → ((t.run other).run later).answer op = ((s.run past).run later).answer op := by
  refine ⟨fun key v => value?_run_eq_some_iff new, fun op => ?_, fun op key => value?_after_of_not_writes _,
    fun op => after_of_writes_nothing _, fun t _ other same later op => answer_run_congr same later⟩
  rw [← name_run s past]
  exact (s.run past).answers_answer op

/-- A key that is removed and set again, beside one that is overwritten, in a store with a name. -/
theorem run_refines_map_reinserted :
    let past : List StoreOperation :=
      [.set "ä" (.int 1), .set "z" (.string "x"), .remove "ä", .contains "ä", .set "ä" (.float .one),
        .set "z" (.bool true), .bool "ä"]
    (named "suite").IsNew ∧ ((named "suite").run past).value? "ä" = some (.float .one) ∧
      FiniteMap.Answers ((named "suite").run past).value? (some "suite") .keys (.keys ["z", "ä"]) := by
  intro past
  have new : (named "suite").IsNew := .named "suite"
  have last : LastSet "ä" (.float .one) past :=
    ⟨past.take 4, [.set "z" (.bool true), .bool "ä"], rfl, by simp [StoreOperation.writes]⟩
  have keys : ((named "suite").run past).answer .keys = .keys ["z", "ä"] := rfl
  obtain ⟨held, answers, -⟩ := run_refines_map new past
  exact ⟨new, (held "ä" _).2 last, keys ▸ answers .keys⟩

end MemoryStore

end StoredProperty
