import StoredProperty.Store.Value

/-!
# Stores in memory

A store is a finite map from keys to values, kept as its entries in the order of the keys. `insertEntry` and
`eraseEntry` keep the order, so that two stores with the same entries are the same store; `find?` after each of them
is the law of a map. Keys are ordered by their UTF-8 bytes; the order is strict and total, since a text is its bytes.
Typed reads of an absent key give false, zero and no text.
-/

namespace StoredProperty

namespace Key

def bytes (key : String) : List UInt8 := key.toByteArray.data.toList

/-- The key `a` stands before `b`. -/
def Before (a b : String) : Prop := bytes a < bytes b

instance (a b : String) : Decidable (Before a b) := inferInstanceAs (Decidable (bytes a < bytes b))

theorem bytes_injective {a b : String} (h : bytes a = bytes b) : a = b := by
  have hd : a.toByteArray.data = b.toByteArray.data := Array.toList_inj.1 h
  exact String.toByteArray_inj.1 (by cases ha : a.toByteArray; cases hb : b.toByteArray; simp_all)

theorem Before.irrefl (a : String) : ¬ Before a a := List.lt_irrefl _

theorem Before.trans {a b c : String} (hab : Before a b) (hbc : Before b c) : Before a c :=
  List.lt_trans hab hbc

theorem before_or_eq_or_after (a b : String) : Before a b ∨ a = b ∨ Before b a := by
  by_cases hab : Before a b
  · exact .inl hab
  · by_cases hba : Before b a
    · exact .inr (.inr hba)
    · exact .inr (.inl (bytes_injective (List.le_antisymm (List.not_lt.1 hba) (List.not_lt.1 hab))))

end Key

abbrev Entries := List (String × StoredValue)

namespace Entries

def find? (entries : Entries) (key : String) : Option StoredValue := List.lookup key entries

/-- Each key stands before every later one. -/
def Sorted (entries : Entries) : Prop := entries.Pairwise fun a b => Key.Before a.1 b.1

def insertEntry (key : String) (value : StoredValue) : Entries → Entries
  | [] => [(key, value)]
  | (k, v) :: rest =>
    if key = k then (key, value) :: rest
    else if Key.Before key k then (key, value) :: (k, v) :: rest
    else (k, v) :: insertEntry key value rest

def eraseEntry (key : String) (entries : Entries) : Entries := entries.filter (·.1 ≠ key)

theorem mem_insertEntry {key : String} {value : StoredValue} {entries : Entries} {e : String × StoredValue}
    (h : e ∈ insertEntry key value entries) : e = (key, value) ∨ e ∈ entries := by
  induction entries with
  | nil => simpa [insertEntry] using h
  | cons head rest ih =>
    obtain ⟨k, v⟩ := head
    unfold insertEntry at h
    split at h
    · rcases List.mem_cons.1 h with h | h
      · exact .inl h
      · exact .inr (List.mem_cons_of_mem _ h)
    · split at h
      · exact (List.mem_cons.1 h).imp id id
      · rcases List.mem_cons.1 h with h | h
        · exact .inr (h ▸ List.mem_cons_self)
        · exact (ih h).imp id (List.mem_cons_of_mem _)

theorem Sorted.insertEntry {entries : Entries} (h : Sorted entries) (key : String) (value : StoredValue) :
    Sorted (insertEntry key value entries) := by
  induction entries with
  | nil => simp [Entries.insertEntry, Sorted]
  | cons head rest ih =>
    obtain ⟨k, v⟩ := head
    have hk := (List.pairwise_cons.1 h).1
    have hrest := (List.pairwise_cons.1 h).2
    unfold Entries.insertEntry
    split
    · rename_i he
      subst he
      exact List.pairwise_cons.2 ⟨hk, hrest⟩
    · split
      · rename_i hb
        refine List.pairwise_cons.2 ⟨fun e he => ?_, h⟩
        rcases List.mem_cons.1 he with he | he
        · exact he ▸ hb
        · exact hb.trans (hk e he)
      · rename_i hne hnb
        refine List.pairwise_cons.2 ⟨fun e he => ?_, ih hrest⟩
        rcases mem_insertEntry he with he | he
        · rcases Key.before_or_eq_or_after key k with hb | hb | hb
          · exact absurd hb hnb
          · exact absurd hb hne
          · exact he ▸ hb
        · exact hk e he

theorem Sorted.eraseEntry {entries : Entries} (h : Sorted entries) (key : String) :
    Sorted (eraseEntry key entries) := h.filter _

theorem find?_insertEntry_self (key : String) (value : StoredValue) (entries : Entries) :
    find? (insertEntry key value entries) key = some value := by
  induction entries with
  | nil => simp [insertEntry, find?]
  | cons head rest ih =>
    obtain ⟨k, v⟩ := head
    unfold insertEntry
    split
    · simp [find?]
    · split
      · simp [find?]
      · rename_i hne _
        have : (key == k) = false := by simpa using hne
        simpa [find?, List.lookup_cons, this] using ih

theorem find?_insertEntry_of_ne {key other : String} (h : other ≠ key) (value : StoredValue) (entries : Entries) :
    find? (insertEntry key value entries) other = find? entries other := by
  have hb : (other == key) = false := by simpa using h
  induction entries with
  | nil => simp [insertEntry, find?, List.lookup_cons, hb]
  | cons head rest ih =>
    obtain ⟨k, v⟩ := head
    unfold insertEntry
    split
    · rename_i he
      subst he
      simp [find?, List.lookup_cons, hb]
    · split
      · simp [find?, List.lookup_cons, hb]
      · cases ho : other == k
        · simpa [find?, List.lookup_cons, ho] using ih
        · simp [find?, List.lookup_cons, ho]

theorem find?_eraseEntry_self (key : String) (entries : Entries) : find? (eraseEntry key entries) key = none := by
  induction entries with
  | nil => rfl
  | cons head rest ih =>
    obtain ⟨k, v⟩ := head
    by_cases h : k = key
    · simpa [eraseEntry, find?, h] using ih
    · have : (key == k) = false := by simpa using fun e => h e.symm
      simpa [eraseEntry, find?, h, List.lookup_cons, this] using ih

theorem find?_eraseEntry_of_ne {key other : String} (h : other ≠ key) (entries : Entries) :
    find? (eraseEntry key entries) other = find? entries other := by
  induction entries with
  | nil => rfl
  | cons head rest ih =>
    obtain ⟨k, v⟩ := head
    by_cases hk : k = key
    · subst hk
      have : (other == k) = false := by simpa using h
      simpa [eraseEntry, find?, List.lookup_cons, this] using ih
    · cases ho : other == k
      · simpa [eraseEntry, find?, hk, List.lookup_cons, ho] using ih
      · simp [eraseEntry, find?, hk, List.lookup_cons, ho]

end Entries

structure MemoryStore where
  name : Option String
  entries : Entries
  sorted : entries.Sorted

namespace MemoryStore

/-- The name of the standard store. -/
def standardName : String := "standard"

def empty : MemoryStore := ⟨none, [], List.Pairwise.nil⟩

def named (name : String) : MemoryStore := ⟨some name, [], List.Pairwise.nil⟩

def standard : MemoryStore := named standardName

instance : Inhabited MemoryStore := ⟨empty⟩

def set (s : MemoryStore) (key : String) (value : StoredValue) : MemoryStore :=
  { s with entries := s.entries.insertEntry key value, sorted := s.sorted.insertEntry key value }

def remove (s : MemoryStore) (key : String) : MemoryStore :=
  { s with entries := s.entries.eraseEntry key, sorted := s.sorted.eraseEntry key }

def clear (s : MemoryStore) : MemoryStore := { s with entries := [], sorted := List.Pairwise.nil }

def value? (s : MemoryStore) (key : String) : Option StoredValue := s.entries.find? key

def contains (s : MemoryStore) (key : String) : Bool := (s.value? key).isSome

def bool (s : MemoryStore) (key : String) : Bool := ((s.value? key).map StoredValue.asBool).getD false

def integer (s : MemoryStore) (key : String) : Int64 := ((s.value? key).map StoredValue.asInteger).getD 0

def float (s : MemoryStore) (key : String) : Binary64 := ((s.value? key).map StoredValue.asFloat).getD .zero

def text? (s : MemoryStore) (key : String) : Option String := (s.value? key).bind StoredValue.asText?

/-- The keys in the order of their bytes. -/
def keys (s : MemoryStore) : List String := s.entries.map (·.1)

def size (s : MemoryStore) : Nat := s.entries.length

def isEmpty (s : MemoryStore) : Bool := s.entries.isEmpty

@[simp] theorem value?_empty (key : String) : empty.value? key = none := rfl

@[simp] theorem value?_clear (s : MemoryStore) (key : String) : s.clear.value? key = none := rfl

@[simp] theorem value?_set_self (s : MemoryStore) (key : String) (v : StoredValue) :
    (s.set key v).value? key = some v :=
  Entries.find?_insertEntry_self key v s.entries

theorem value?_set_of_ne (s : MemoryStore) {key other : String} (h : other ≠ key) (v : StoredValue) :
    (s.set key v).value? other = s.value? other :=
  Entries.find?_insertEntry_of_ne h v s.entries

@[simp] theorem value?_remove_self (s : MemoryStore) (key : String) : (s.remove key).value? key = none :=
  Entries.find?_eraseEntry_self key s.entries

theorem value?_remove_of_ne (s : MemoryStore) {key other : String} (h : other ≠ key) :
    (s.remove key).value? other = s.value? other :=
  Entries.find?_eraseEntry_of_ne h s.entries

theorem keys_sorted (s : MemoryStore) : s.keys.Pairwise Key.Before := List.pairwise_map.2 s.sorted

end MemoryStore

end StoredProperty
