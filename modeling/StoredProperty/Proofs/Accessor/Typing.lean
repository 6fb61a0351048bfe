import StoredProperty.Accessor

/-!
# Types of defaults

The type of a property is that of its default's form. `Literal.HasType` gives it form by form, with every spelling of
a type that a member may be of, and `DefaultValue.classify` finds it or shows the default's text.
-/

namespace StoredProperty

namespace ValueType

/-- Every spelling of a type. -/
def spellings : List (String × ValueType) :=
  [("Bool", bool), ("bool", bool), ("Int", int), ("i64", int), ("Float", float), ("f64", float), ("String", string)]

theorem ofName?_eq_some_iff {name : String} {t : ValueType} : ofName? name = some t ↔ (name, t) ∈ spellings := by
  constructor
  · intro found
    have named : t.name = name ∨ t.fieldType = name := by simpa using List.find?_some found
    rcases named with rfl | rfl
    · cases t <;> decide
    · cases t <;> decide
  · intro listed
    simp only [spellings, List.mem_cons, Prod.mk.injEq, List.not_mem_nil, or_false] at listed
    rcases listed with ⟨rfl, rfl⟩ | ⟨rfl, rfl⟩ | ⟨rfl, rfl⟩ | ⟨rfl, rfl⟩ | ⟨rfl, rfl⟩ | ⟨rfl, rfl⟩ | ⟨rfl, rfl⟩ <;> rfl

end ValueType

/-- The type of a literal: a scalar has one, and so has a member of a type that is spelt in a known way. -/
inductive Literal.HasType : Literal → ValueType → Prop
  | bool (b : Bool) : HasType (.bool b) .bool
  | int (n : Int64) : HasType (.int n) .int
  | float (x : Binary64) : HasType (.float x) .float
  | str (s : String) : HasType (.str s) .string
  | member {typeName : String} {t : ValueType} (name : String) (spelling : (typeName, t) ∈ ValueType.spellings) :
      HasType (.memberRef typeName name) t

/-- The computed type is the one that the rules give. -/
theorem Literal.valueType?_eq_some_iff {l : Literal} {t : ValueType} : l.valueType? = some t ↔ l.HasType t := by
  constructor
  · intro h
    cases l with
    | bool b => cases h; exact .bool b
    | int n => cases h; exact .int n
    | float x => cases h; exact .float x
    | str s => cases h; exact .str s
    | memberRef typeName name => exact .member name (ValueType.ofName?_eq_some_iff.1 h)
    | unsupported source => cases h
  · intro h
    cases h with
    | member name spelling => exact ValueType.ofName?_eq_some_iff.2 spelling
    | bool | int | float | str => rfl

/-- A literal has at most one type. -/
theorem Literal.HasType.unique {l : Literal} {t u : ValueType} (ht : l.HasType t) (hu : l.HasType u) : t = u := by
  rw [← Literal.valueType?_eq_some_iff] at ht hu
  exact Option.some.inj (ht.symm.trans hu)

/-- The kind of read for every type. -/
def Read.table : List (ValueType × Read) :=
  [(.bool, .bool), (.int, .integer), (.float, .float), (.string, .stringOrDefault)]

/-- The table gives each type its read. -/
theorem Read.mem_table_iff {t : ValueType} {r : Read} : (t, r) ∈ Read.table ↔ r = .ofType t := by
  cases t <;> cases r <;> decide

theorem DefaultValue.classify_of_hasType {d : DefaultValue} {t : ValueType} (h : d.literal.HasType t) :
    d.classify = .ok t := by
  rw [classify, Literal.valueType?_eq_some_iff.2 h]

/-- A default without a type is named in the fault. -/
theorem DefaultValue.classify_of_untyped {d : DefaultValue} (h : ¬ ∃ t, d.literal.HasType t) :
    d.classify = .error (.unsupportedDefault d.source) := by
  have none : d.literal.valueType? = none := by
    rw [Option.eq_none_iff_forall_ne_some]
    intro t found
    exact h ⟨t, Literal.valueType?_eq_some_iff.1 found⟩
  rw [classify, none]

end StoredProperty
