import StoredProperty.Expansion
import StoredProperty.Proofs.Accessor.Resolution
import StoredProperty.Proofs.Declaration.Spec

/-!
# What an expansion comes to

A declaration is read into a spec, and the spec's checks follow. `Declaration.FirstFault` puts the faults of both in
one order, and `Config.expand_outcome` says when there is an accessor, what it is, and what the diagnostic is when
there is none.
-/

namespace StoredProperty

variable {d : Declaration} {a : Accessor} {f : Fault} {c : Config} {e : Diagnostic}

/-- The fault of the first check that fails, where reading the declaration comes before the checks of its spec. -/
inductive Declaration.FirstFault (d : Declaration) : Fault → Prop
  | reading {f : Fault} (fault : PropertySpec.ofDeclaration d = .error f) : FirstFault d f
  | checking {s : PropertySpec} {f : Fault} (read : PropertySpec.ofDeclaration d = .ok s) (fault : s.FirstFault f) :
      FirstFault d f

namespace Declaration

theorem accessor_of_unread (h : PropertySpec.ofDeclaration d = .error f) : d.accessor = .error f := by
  rw [accessor, h]
  rfl

theorem accessor_of_read {s : PropertySpec} (h : PropertySpec.ofDeclaration d = .ok s) : d.accessor = s.accessor := by
  rw [accessor, h]
  rfl

/-- A declaration has an accessor just when it is read as a complete spec, and it is the one described. -/
theorem accessor_eq_ok_iff :
    d.accessor = .ok a ↔ ∃ s, PropertySpec.ofDeclaration d = .ok s ∧ s.Complete ∧ s.Describes a := by
  cases read : PropertySpec.ofDeclaration d with
  | error f => simp [accessor_of_unread read]
  | ok s => simp [accessor_of_read read, PropertySpec.accessor_eq_ok_iff]

/-- A declaration fails with its first fault. -/
theorem accessor_eq_error_iff : d.accessor = .error f ↔ d.FirstFault f := by
  constructor
  · intro h
    cases read : PropertySpec.ofDeclaration d with
    | error g =>
      cases h.symm.trans (accessor_of_unread read)
      exact .reading read
    | ok s =>
      rw [accessor_of_read read, PropertySpec.accessor_eq_error_iff] at h
      exact .checking read h
  · intro h
    cases h with
    | reading fault => exact accessor_of_unread fault
    | checking read fault => rw [accessor_of_read read, PropertySpec.accessor_of_firstFault fault]

/-- The only fault that is not one of syntax is found after the declaration has been read. -/
theorem FirstFault.kind_eq_iff (h : d.FirstFault f) :
    f.kind = .unsupportedType ↔ ∃ s, PropertySpec.ofDeclaration d = .ok s ∧ ¬ s.Typed := by
  cases h with
  | reading fault => simp [PropertySpec.kind_of_ofDeclaration fault, fault]
  | checking read fault => simp [fault.kind_eq_iff, read]

end Declaration

namespace Config

theorem expand_eq_ok_iff : c.expand d = .ok a ↔ d.accessor = .ok a := by
  rw [expand_eq]
  cases d.accessor <;> simp

/-- An expansion fails with the first fault, in the domain of the configuration. -/
theorem expand_eq_error_iff : c.expand d = .error e ↔ ∃ f, d.FirstFault f ∧ e = f.diagnostic c.domain := by
  simp only [← Declaration.accessor_eq_error_iff]
  rw [expand_eq]
  cases d.accessor <;> simp [eq_comm]

/-- **What an expansion comes to.** There is an accessor when the declaration can be read and its spec is complete,
and it is the one of the spec. Otherwise the diagnostic is that of the first check that fails. It is about the type,
and then shows the default, when the declaration can be read and its default has no type; it is one of syntax in all
other cases. -/
theorem expand_outcome (c : Config) (d : Declaration) :
    ((∃ a, c.expand d = .ok a) ↔ ∃ s, PropertySpec.ofDeclaration d = .ok s ∧
      s.Typed ∧ s.KeyFilled ∧ s.StoreFilled ∧ s.DefaultFilled) ∧
    (∀ a, c.expand d = .ok a → ∃ s, PropertySpec.ofDeclaration d = .ok s ∧ s.name = Text.trim d.name ∧
      s.Describes a ∧ Text.trim a.get.key ≠ "") ∧
    -- which diagnostic
    (∀ e, c.expand d = .error e ↔ ∃ f, d.FirstFault f ∧ e = ⟨f.kind, c.domain, some f.extra⟩) ∧
    (∀ e, c.expand d = .error e →
      (e.kind = .unsupportedType ↔ ∃ s, PropertySpec.ofDeclaration d = .ok s ∧ ¬ s.Typed) ∧
      (e.kind = .syntaxError ↔ ∀ s, PropertySpec.ofDeclaration d = .ok s → s.Typed)) ∧
    (∀ s, PropertySpec.ofDeclaration d = .ok s → ¬ s.Typed →
      c.expand d = .error ⟨.unsupportedType, c.domain, some s.default.source⟩) := by
  refine ⟨⟨?_, ?_⟩, ?_, fun e => expand_eq_error_iff, ?_, ?_⟩
  · rintro ⟨a, built⟩
    obtain ⟨s, read, complete, -⟩ := Declaration.accessor_eq_ok_iff.1 (expand_eq_ok_iff.1 built)
    exact ⟨s, read, complete.typed, complete.key, complete.store, complete.default⟩
  · rintro ⟨s, read, typed, key, store, default⟩
    obtain ⟨a, built, -⟩ := PropertySpec.accessor_of_complete ⟨typed, key, store, default⟩
    exact ⟨a, expand_eq_ok_iff.2 ((Declaration.accessor_of_read read).trans built)⟩
  · intro a built
    obtain ⟨s, read, complete, describes⟩ := Declaration.accessor_eq_ok_iff.1 (expand_eq_ok_iff.1 built)
    exact ⟨s, read, PropertySpec.name_of_ofDeclaration read, describes, describes.trim_key_ne complete.key⟩
  · intro e failed
    obtain ⟨f, fault, rfl⟩ := expand_eq_error_iff.1 failed
    have untyped := fault.kind_eq_iff
    refine ⟨untyped, ?_⟩
    have other : f.kind = .syntaxError ↔ ¬ f.kind = .unsupportedType := by
      cases f.kind <;> decide
    rw [Fault.diagnostic, other, untyped]
    simp
  · intro s read untyped
    exact expand_eq_error_iff.2 ⟨_, .checking read (.unsupportedDefault untyped), rfl⟩

/-- A default without a type is reported although the key is blank too. -/
example :
    expand {} ⟨"size", some [⟨some "key", .str "", " "⟩, ⟨some "default_value", .unsupported "[1]", "[1]"⟩]⟩ =
      .error ⟨.unsupportedType, defaultDomain, some "[1]"⟩ := rfl

end Config

end StoredProperty
