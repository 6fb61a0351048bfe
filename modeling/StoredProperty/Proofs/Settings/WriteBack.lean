import StoredProperty.Proofs.Settings.Getter
import StoredProperty.Proofs.Store.FiniteMap

/-!
# Writing back what was read

A getter coerces what its cell holds to the property's type, or returns the default; either way its answer is a value of
this type, and the getter reads such a value as it is. So when the answer is set again, the cell holds a value of the
property's type and the getter answers as before; nothing else changes, and to write back once more changes nothing at
all: `Property.writeBack_stable`.
-/

namespace StoredProperty

/-- What is read has the kind that it is read as. -/
theorem StoredValue.kind_readAs (v d : StoredValue) : (v.readAs d).kind = d.kind := by
  cases d <;> rfl

namespace Property

/-- The stores after the setter was given what the getter answers. -/
def writeBack (p : Property) (s : Stores) : Stores := p.set (p.get s) s

/-- A getter answers in its property's type. -/
theorem kind_get (p : Property) (s : Stores) : (p.get s).kind = p.default.kind := by
  cases h : s.value? p.place p.key with
  | none => rw [get_of_absent h]
  | some v => rw [get_of_held h, StoredValue.kind_readAs]

/-- The getter after its own setter. -/
theorem get_set {p : Property} {v : StoredValue} (kind : v.kind = p.default.kind) (s : Stores) :
    p.get (p.set v s) = v := by
  have read : p.get (p.set v s) = v.readAs p.default := get_afterStep_set rfl rfl v
  rw [read, StoredValue.readAs_of_kind kind]

theorem store_set_of_ne {p : Property} {place : Place} (other : place ≠ p.place) (v : StoredValue) (s : Stores) :
    (p.set v s).store place = s.store place :=
  Stores.store_replace_of_ne s _ other

/-- Setting what the cell holds changes nothing. -/
theorem set_of_held {p : Property} {s : Stores} {v : StoredValue} (held : s.value? p.place p.key = some v) :
    p.set v s = s := by
  have same : (s.store p.place).after (p.setting v) = s.store p.place := MemoryStore.set_of_held held
  rw [set, Stores.after, same]
  cases p.place <;> rfl

/-- **Writing back what was read is stable**, whatever the stores hold and whatever the property's type is. The getter
answers as before, with the same bits of a float; its cell holds this answer, in the property's type; no other cell
changes, and the other store does not change at all; the second time nothing changes. -/
theorem writeBack_stable (p : Property) (s : Stores) :
    p.get (p.writeBack s) = p.get s ∧
    (p.writeBack s).value? p.place p.key = some (p.get s) ∧ (p.get s).kind = p.default.kind ∧
    (∀ place key, ¬ (p.place = place ∧ p.key = key) → (p.writeBack s).value? place key = s.value? place key) ∧
    (∀ place, place ≠ p.place → (p.writeBack s).store place = s.store place) ∧
    p.writeBack (p.writeBack s) = p.writeBack s := by
  have kind : (p.get s).kind = p.default.kind := p.kind_get s
  have again : p.get (p.writeBack s) = p.get s := get_set kind s
  have held : (p.writeBack s).value? p.place p.key = some (p.get s) := by
    rw [writeBack, value?_set, if_pos ⟨rfl, rfl⟩]
  refine ⟨again, held, kind, fun place key other => ?_, fun place other => store_set_of_ne other _ s, ?_⟩
  · rw [writeBack, value?_set, if_neg other]
  · calc
      p.writeBack (p.writeBack s) = p.set (p.get s) (p.writeBack s) := by rw [writeBack, again]
      _ = p.writeBack s := set_of_held held

/-- A text under the key of a float, which is read as a NaN, beside a text under another key. -/
theorem writeBack_stable_nan :
    let relativeValue : Property := ⟨.float .nan, "relative_value", .own⟩
    let s : Stores :=
      (Settings.fresh.after .own (.set "relative_value" (.string " NaN "))).after .own (.set "type" (.string "dark"))
    Settings.property? "relative_value" = some relativeValue ∧
      ¬ (relativeValue.place = .own ∧ relativeValue.key = "type") ∧
      (relativeValue.writeBack s).value? .own "relative_value" = some (.float .nan) ∧
      (relativeValue.writeBack s).value? .own "type" = some (.string "dark") ∧
      (relativeValue.writeBack s).store .standard = s.store .standard := by
  intro relativeValue s
  have other : ¬ (relativeValue.place = .own ∧ relativeValue.key = "type") := by decide
  have read : relativeValue.get s = .float .nan := by decide +kernel
  have text : s.value? .own "type" = some (.string "dark") := by decide +kernel
  obtain ⟨-, held, -, kept, beside, -⟩ := writeBack_stable relativeValue s
  exact ⟨rfl, other, read ▸ held, (kept .own "type" other).trans text, beside .standard (by decide)⟩

end Property

end StoredProperty
