import StoredProperty.Proofs.Accessor.Typing

/-!
# Resolving a spec

A spec has an accessor when it is `PropertySpec.Complete`: its default has a type, and none of its texts is blank. The
accessor is then the one that the spec `PropertySpec.Describes`, part by part. Otherwise the checks are made in a fixed
order and the first that fails is the fault (`PropertySpec.FirstFault`). One of the two is the case for every spec
(`PropertySpec.complete_or_firstFault`), and what the function does in each is known, so that
`PropertySpec.accessor_eq_ok_iff` and `PropertySpec.accessor_eq_error_iff` follow.
-/

namespace StoredProperty

/-- A quoted text begins with a quote, so it is not blank. -/
theorem Text.trim_quoted_ne (s : String) : Text.trim (Text.quoted s) ≠ "" := by
  intro blank
  rw [← Text.isBlankText_iff, Text.isBlankText, List.all_eq_true] at blank
  have quote : Text.isBlank '"' = true := blank '"' (by simp [Text.quoted, Text.quotedChars])
  exact absurd quote (by decide)

namespace StoreRef

/-- The standard store is never blank. -/
def Filled : StoreRef → Prop
  | standard => True
  | expr source => Text.trim source ≠ ""

end StoreRef

namespace ResolvedProperty

variable {p : ResolvedProperty}

/-- The key is looked at first. -/
theorem accessor_of_blank_key (key : Text.trim p.key = "") : p.accessor = .error .emptyKey := by
  have blank := Text.isBlankText_iff.2 key
  simp only [accessor, blank, if_true]
  rfl

/-- The store is looked at behind the key. -/
theorem accessor_of_blank_store (key : Text.trim p.key ≠ "") (store : ¬ p.store.Filled) :
    p.accessor = .error .emptyStore := by
  rw [Ne, ← Text.isBlankText_iff] at key
  cases target : p.store with
  | standard =>
    rw [target] at store
    exact absurd trivial store
  | expr source =>
    have blank : Text.isBlankText source = true := by
      rw [Text.isBlankText_iff]
      simpa [target, StoreRef.Filled] using store
    simp only [accessor, key, target, blank, if_true]
    rfl

/-- Past the key and the store only the default's text is looked at. -/
theorem accessor_past_store (key : Text.trim p.key ≠ "") (store : p.store.Filled) :
    p.accessor =
      if Text.isBlankText p.default.source then .error .emptyDefault
      else .ok {
        valueType := p.valueType
        get := { store := p.store, key := p.key, default := p.default.source, read := .ofType p.valueType }
        set := { store := p.store, key := p.key } } := by
  rw [Ne, ← Text.isBlankText_iff] at key
  cases target : p.store with
  | standard =>
    simp only [accessor, key, target, Bool.false_eq_true, if_false]
    split <;> rfl
  | expr source =>
    have filled : ¬ Text.isBlankText source = true := by
      rw [Text.isBlankText_iff]
      simpa [target, StoreRef.Filled] using store
    simp only [accessor, key, target, filled, Bool.false_eq_true, if_false]
    split <;> rfl

theorem accessor_of_blank_default (key : Text.trim p.key ≠ "") (store : p.store.Filled)
    (default : Text.trim p.default.source = "") : p.accessor = .error .emptyDefault := by
  rw [accessor_past_store key store, if_pos (Text.isBlankText_iff.2 default)]

/-- With all texts filled there is an accessor, whose two parts share the store and the key. -/
theorem accessor_of_filled (key : Text.trim p.key ≠ "") (store : p.store.Filled)
    (default : Text.trim p.default.source ≠ "") :
    p.accessor = .ok {
      valueType := p.valueType
      get := { store := p.store, key := p.key, default := p.default.source, read := .ofType p.valueType }
      set := { store := p.store, key := p.key } } := by
  rw [Ne, ← Text.isBlankText_iff] at default
  rw [accessor_past_store key store, if_neg default]

end ResolvedProperty

namespace PropertySpec

/-! What an accessor needs of the parts of a spec. -/

def Typed (s : PropertySpec) : Prop := ∃ t, s.default.literal.HasType t

def KeyFilled (s : PropertySpec) : Prop := ∀ source, s.key = some source → Text.trim source ≠ ""

def StoreFilled (s : PropertySpec) : Prop := ∀ source, s.store = some source → Text.trim source ≠ ""

def DefaultFilled (s : PropertySpec) : Prop := Text.trim s.default.source ≠ ""

/-- The spec has an accessor. -/
structure Complete (s : PropertySpec) : Prop where
  typed : s.Typed
  key : s.KeyFilled
  store : s.StoreFilled
  default : s.DefaultFilled

/-- The fault of the first check that fails: the type is looked at first, then the key, the store and the default's
text. -/
inductive FirstFault (s : PropertySpec) : Fault → Prop
  | unsupportedDefault (typed : ¬ s.Typed) : FirstFault s (.unsupportedDefault s.default.source)
  | emptyKey (typed : s.Typed) (key : ¬ s.KeyFilled) : FirstFault s .emptyKey
  | emptyStore (typed : s.Typed) (key : s.KeyFilled) (store : ¬ s.StoreFilled) : FirstFault s .emptyStore
  | emptyDefault (typed : s.Typed) (key : s.KeyFilled) (store : s.StoreFilled) (default : ¬ s.DefaultFilled) :
      FirstFault s .emptyDefault

/-- The accessor is the one of the spec. Its two parts share the store and the key; a text that is given is taken as it
stands. -/
structure Describes (s : PropertySpec) (a : Accessor) : Prop where
  type : s.default.literal.HasType a.valueType
  read : (a.valueType, a.get.read) ∈ Read.table
  sameStore : a.set.store = a.get.store
  sameKey : a.set.key = a.get.key
  givenKey : ∀ source, s.key = some source → a.get.key = source
  derivedKey : s.key = none → a.get.key = Text.quoted s.name
  givenStore : ∀ source, s.store = some source → a.get.store = .expr source
  standardStore : s.store = none → a.get.store = .standard
  default : a.get.default = s.default.source

variable {s : PropertySpec} {a b : Accessor} {f : Fault} {t : ValueType}

/-- What resolution makes of the spec, once the type is known. -/
def resolved (s : PropertySpec) (t : ValueType) : ResolvedProperty :=
  { valueType := t, store := .ofSource? s.store, key := resolveKey s.key s.name, default := s.default }

/-- Only a given key can be blank: a quoted name has its quotes. -/
theorem trim_resolved_key_ne_iff : Text.trim (s.resolved t).key ≠ "" ↔ s.KeyFilled := by
  cases given : s.key with
  | none => simp [resolved, KeyFilled, given, Text.trim_quoted_ne]
  | some source => simp [resolved, KeyFilled, given]

theorem filled_resolved_store_iff : (s.resolved t).store.Filled ↔ s.StoreFilled := by
  cases given : s.store with
  | none => simp [resolved, StoreFilled, StoreRef.Filled, given]
  | some source => simp [resolved, StoreFilled, StoreRef.Filled, given]

theorem accessor_of_hasType (h : s.default.literal.HasType t) : s.accessor = (s.resolved t).accessor := by
  rw [accessor, resolve, DefaultValue.classify_of_hasType h]
  rfl

/-- The first check that fails settles the fault, whatever the later ones would have said. -/
theorem accessor_of_firstFault (h : s.FirstFault f) : s.accessor = .error f := by
  cases h with
  | unsupportedDefault typed =>
    rw [accessor, resolve, DefaultValue.classify_of_untyped typed]
    rfl
  | emptyKey typed key =>
    obtain ⟨t, type⟩ := typed
    rw [accessor_of_hasType type]
    refine ResolvedProperty.accessor_of_blank_key (Classical.not_not.1 ?_)
    exact fun filled => key (trim_resolved_key_ne_iff.1 filled)
  | emptyStore typed key store =>
    obtain ⟨t, type⟩ := typed
    rw [accessor_of_hasType type]
    refine ResolvedProperty.accessor_of_blank_store (trim_resolved_key_ne_iff.2 key) ?_
    exact fun filled => store (filled_resolved_store_iff.1 filled)
  | emptyDefault typed key store default =>
    obtain ⟨t, type⟩ := typed
    rw [accessor_of_hasType type]
    exact ResolvedProperty.accessor_of_blank_default (trim_resolved_key_ne_iff.2 key)
      (filled_resolved_store_iff.2 store) (Classical.not_not.1 default)

/-- A complete spec has the accessor that it describes. -/
theorem accessor_of_complete (h : s.Complete) : ∃ a, s.accessor = .ok a ∧ s.Describes a := by
  obtain ⟨t, type⟩ := h.typed
  have built := ResolvedProperty.accessor_of_filled (p := s.resolved t) (trim_resolved_key_ne_iff.2 h.key)
    (filled_resolved_store_iff.2 h.store) h.default
  refine ⟨_, (accessor_of_hasType type).trans built, type, Read.mem_table_iff.2 rfl, rfl, rfl, ?_, ?_, ?_, ?_, rfl⟩
  · intro source given
    simp [resolved, given]
  · intro absent
    simp [resolved, absent]
  · intro source given
    simp [resolved, given]
  · intro absent
    simp [resolved, absent]

/-- A spec is complete or has a first fault. -/
theorem complete_or_firstFault (s : PropertySpec) : s.Complete ∨ ∃ f, s.FirstFault f := by
  by_cases typed : s.Typed
  · by_cases key : s.KeyFilled
    · by_cases store : s.StoreFilled
      · by_cases default : s.DefaultFilled
        · exact .inl ⟨typed, key, store, default⟩
        · exact .inr ⟨_, .emptyDefault typed key store default⟩
      · exact .inr ⟨_, .emptyStore typed key store⟩
    · exact .inr ⟨_, .emptyKey typed key⟩
  · exact .inr ⟨_, .unsupportedDefault typed⟩

/-- Nothing of an accessor is left open by its spec. -/
theorem Describes.unique (ha : s.Describes a) (hb : s.Describes b) : a = b := by
  have type : a.valueType = b.valueType := ha.type.unique hb.type
  have read : a.get.read = b.get.read := by
    rw [Read.mem_table_iff.1 ha.read, Read.mem_table_iff.1 hb.read, type]
  have key : a.get.key = b.get.key := by
    cases given : s.key with
    | none => rw [ha.derivedKey given, hb.derivedKey given]
    | some source => rw [ha.givenKey source given, hb.givenKey source given]
  have store : a.get.store = b.get.store := by
    cases given : s.store with
    | none => rw [ha.standardStore given, hb.standardStore given]
    | some source => rw [ha.givenStore source given, hb.givenStore source given]
  have default : a.get.default = b.get.default := ha.default.trans hb.default.symm
  have sets : a.set = b.set := by
    rw [Setter.ext_iff, ha.sameStore, ha.sameKey, hb.sameStore, hb.sameKey]
    exact ⟨store, key⟩
  exact Accessor.ext type (Getter.ext store key default read) sets

/-- A spec has an accessor just when it is complete, and it is the one described. -/
theorem accessor_eq_ok_iff : s.accessor = .ok a ↔ s.Complete ∧ s.Describes a := by
  constructor
  · intro h
    rcases s.complete_or_firstFault with complete | ⟨f, fault⟩
    · obtain ⟨b, built, describes⟩ := accessor_of_complete complete
      cases h.symm.trans built
      exact ⟨complete, describes⟩
    · cases h.symm.trans (accessor_of_firstFault fault)
  · rintro ⟨complete, describes⟩
    obtain ⟨b, built, other⟩ := accessor_of_complete complete
    rw [built, other.unique describes]

/-- A spec fails with its first fault and with nothing else. -/
theorem accessor_eq_error_iff : s.accessor = .error f ↔ s.FirstFault f := by
  constructor
  · intro h
    rcases s.complete_or_firstFault with complete | ⟨g, fault⟩
    · obtain ⟨b, built, -⟩ := accessor_of_complete complete
      cases h.symm.trans built
    · cases h.symm.trans (accessor_of_firstFault fault)
      exact fault
  · exact accessor_of_firstFault

/-- Only a spec without a type has a fault that is not one of syntax. -/
theorem FirstFault.kind_eq_iff (h : s.FirstFault f) : f.kind = .unsupportedType ↔ ¬ s.Typed := by
  cases h with
  | unsupportedDefault typed => exact iff_of_true rfl typed
  | emptyKey typed | emptyStore typed | emptyDefault typed => exact iff_of_false (by decide) (not_not_intro typed)

theorem Describes.trim_key_ne (h : s.Describes a) (key : s.KeyFilled) : Text.trim a.get.key ≠ "" := by
  cases given : s.key with
  | none =>
    rw [h.derivedKey given]
    exact Text.trim_quoted_ne s.name
  | some source =>
    rw [h.givenKey source given]
    exact key source given

end PropertySpec

end StoredProperty
