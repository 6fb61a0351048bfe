import Mathlib.Data.List.Forall2
import StoredProperty.Proofs.Accessor.Resolution
import StoredProperty.Proofs.Diagnostic
import StoredProperty.Proofs.Expansion.Batch

/-!
# What a configuration changes

Two configurations expand everything alike, up to the domain of the diagnostics: `Config.Alike` relates what they give.
What is written out of a diagnostic is in the configured domain whether it was moved or not (`Config.record_moved`). A
stage that is stamped gives related results (`Config.alike_stamp`), and so do two stages one behind the other
(`Config.Alike.bind`); an expansion is put together in this way, and nothing in it is left unstamped. The name of the
standard store counts only when an accessor is rendered, and there it is put in place of a store that has no text of
its own. Both are stated in `Config.configuration_invisible`.
-/

namespace StoredProperty

namespace DiagnosticRecord

/-- The record is in the domain, and so is the identifier that is written in it. -/
structure InDomain (r : DiagnosticRecord) (name : String) : Prop where
  domain : r.domain = name
  id : r.id = name ++ "." ++ r.kind.name

/-- The record in a domain: its domain and its identifier are written anew, unless it is there already. -/
def movedTo (r : DiagnosticRecord) (name : String) : DiagnosticRecord :=
  if r.domain = name then r else r.withDomain name

/-- A record that is left as it is has the identifier of its domain, since its columns are in step. -/
theorem Coherent.inDomain_movedTo {r : DiagnosticRecord} (h : r.Coherent) (name : String) :
    (r.movedTo name).InDomain name := by
  unfold movedTo
  split
  · next there =>
    constructor
    · exact there
    · rw [h.id, there]
  · exact ⟨rfl, rfl⟩

end DiagnosticRecord

namespace Diagnostic

/-- The diagnostic is in the domain, and so is its identifier, also where it is written out. -/
structure InDomain (e : Diagnostic) (name : String) : Prop where
  domain : e.domain = name
  id : e.id = name ++ "." ++ e.kind.name
  record : e.record.InDomain name

/-- One diagnostic as two configurations give it. -/
structure Alike (c c' : Config) (e e' : Diagnostic) : Prop where
  here : e.InDomain c.domain
  there : e'.InDomain c'.domain
  moved : e' = e.withDomain c'.domain

end Diagnostic

/-- One report as two configurations give it. -/
structure Report.Alike (c c' : Config) (r r' : Report) : Prop where
  site : r'.site = r.site
  diagnostic : r.diagnostic.Alike c c' r'.diagnostic

namespace Config

/-- One result as two configurations give it: the same success, or a failure each, which differ in the domain only. -/
inductive Alike (c c' : Config) {α : Type} : Except Diagnostic α → Except Diagnostic α → Prop
  | ok (a : α) : Alike c c' (.ok a) (.ok a)
  | error {e e' : Diagnostic} (diagnostic : e.Alike c c' e') : Alike c c' (.error e) (.error e')

variable {c c' : Config} {α β : Type}

/-! ## Stages -/

/-- What is written out of a diagnostic that was moved is the record that was moved, on both branches. -/
theorem record_moved (c : Config) (d : Diagnostic) : (c.moved d).record = d.record.movedTo c.domain := by
  unfold moved DiagnosticRecord.movedTo
  by_cases there : d.domain = c.domain
  · rw [if_pos there, if_pos (show d.record.domain = c.domain from there)]
  · rw [if_neg there, if_neg (show d.record.domain ≠ c.domain from there), Diagnostic.record_withDomain]

/-- A diagnostic that need not be moved is where it should be, too. -/
theorem inDomain_moved (c : Config) (d : Diagnostic) : (c.moved d).InDomain c.domain := by
  have written : (c.moved d).record.InDomain c.domain := by
    rw [record_moved]
    exact (DiagnosticRecord.coherent_record d).inDomain_movedTo c.domain
  exact ⟨written.domain, written.id, written⟩

/-- A diagnostic that two configurations move differs in the domain only. -/
theorem alike_moved (c c' : Config) (d : Diagnostic) : (c.moved d).Alike c c' (c'.moved d) where
  here := c.inDomain_moved d
  there := c'.inDomain_moved d
  moved := by rw [moved_eq, moved_eq, Diagnostic.withDomain_withDomain]

/-- A stage that is stamped succeeds under both configurations, or fails alike. -/
theorem alike_stamp (c c' : Config) (result : Except Fault α) : Alike c c' (c.stamp result) (c'.stamp result) := by
  cases result with
  | ok a => exact .ok a
  | error fault => exact .error (alike_moved c c' _)

/-- The second stage is reached under both configurations or under neither. -/
theorem Alike.bind {x x' : Except Diagnostic α} {next next' : α → Except Diagnostic β} (first : Alike c c' x x')
    (second : ∀ a, Alike c c' (next a) (next' a)) : Alike c c' (x >>= next) (x' >>= next') := by
  cases first with
  | ok a => exact second a
  | error diagnostic => exact .error diagnostic

/-- Results that are alike have the same accessor. -/
theorem Alike.toOption_eq {x x' : Except Diagnostic α} (h : Alike c c' x x') : x'.toOption = x.toOption := by
  cases h with
  | ok a => rfl
  | error diagnostic => rfl

/-! ## Expansions -/

theorem alike_expandSpec (c c' : Config) (s : PropertySpec) : Alike c c' (c.expandSpec s) (c'.expandSpec s) := by
  rw [expandSpec_eq, expandSpec_eq]
  exact (alike_stamp c c' s.resolve).bind fun p => alike_stamp c c' p.accessor

/-- Reading is a stage too, in front of those of the spec. -/
theorem alike_expand (c c' : Config) (d : Declaration) : Alike c c' (c.expand d) (c'.expand d) :=
  (alike_stamp c c' (PropertySpec.ofDeclaration d)).bind (alike_expandSpec c c')

/-- An entry does not show the configuration. -/
theorem entry_eq_entry (c c' : Config) (d : Declaration) : c'.entry d = c.entry d := by
  rw [entry, entry, (alike_expand c c' d).toOption_eq]

/-- A declaration is reported under both configurations or under neither. -/
theorem forall₂_alike_report? (c c' : Config) (d : Declaration) :
    List.Forall₂ (Report.Alike c c') (c.report? d).toList (c'.report? d).toList := by
  have alike := alike_expand c c' d
  unfold report?
  generalize c.expand d = x at alike
  generalize c'.expand d = x' at alike
  cases alike with
  | ok a => exact .nil
  | error diagnostic => exact .cons ⟨rfl, diagnostic⟩ .nil

/-- What is reported for a list is reported for its declarations one by one. -/
theorem forall₂_alike_reports (c c' : Config) (ds : List Declaration) :
    List.Forall₂ (Report.Alike c c') (c.expandAll ds).reports (c'.expandAll ds).reports := by
  rw [reports_expandAll, reports_expandAll, List.filterMap_eq_flatMap_toList, List.filterMap_eq_flatMap_toList]
  induction ds with
  | nil => exact .nil
  | cons d ds ih =>
    rw [List.flatMap_cons, List.flatMap_cons]
    exact List.rel_append (forall₂_alike_report? c c' d) ih

end Config

/-! ## Rendering -/

namespace Accessor

/-- The accessor with both its parts on another store. -/
def onStore (a : Accessor) (store : StoreRef) : Accessor :=
  { a with get := { a.get with store }, set := { a.set with store } }

variable {a : Accessor} {p : ResolvedProperty}

/-- The getter and the setter of an accessor share the store that was settled. -/
theorem store_of_accessor (built : p.accessor = .ok a) : a.get.store = p.store ∧ a.set.store = p.store := by
  by_cases key : Text.trim p.key = ""
  · cases built.symm.trans (ResolvedProperty.accessor_of_blank_key key)
  · by_cases store : p.store.Filled
    · by_cases default : Text.trim p.default.source = ""
      · cases built.symm.trans (ResolvedProperty.accessor_of_blank_default key store default)
      · cases built.symm.trans (ResolvedProperty.accessor_of_filled key store default)
        exact ⟨rfl, rfl⟩
    · cases built.symm.trans (ResolvedProperty.accessor_of_blank_store key store)

/-- Rendering puts the text of the store in its place. -/
theorem render_eq_onStore {store : StoreRef} (get : a.get.store = store) (set : a.set.store = store)
    (name name' : String) : a.render name = (a.onStore (.expr (store.source name))).render name' := by
  have getter : a.store.source name = (a.onStore (.expr (store.source name))).store.source name' := by
    rw [Accessor.store, get]
    rfl
  have setter : a.set.store.source name = (a.onStore (.expr (store.source name))).set.store.source name' := by
    rw [set]
    rfl
  rw [render, getter, setter]
  rfl

end Accessor

/-- **A configuration is not seen in what is expanded.** Two configurations agree on which declarations and specs have
an accessor, and on the accessor. What they report differs in the domain only: each reports in its own, at the same
sites and in the same order. The name of the standard store is not seen in an accessor with a store of its own; in
any other the accessor is rendered as if the name were its store. -/
theorem Config.configuration_invisible (c c' : Config) :
    (∀ d, Alike c c' (c.expand d) (c'.expand d)) ∧
    (∀ s, Alike c c' (c.expandSpec s) (c'.expandSpec s)) ∧
    (∀ ds, (c'.expandAll ds).properties = (c.expandAll ds).properties ∧
      List.Forall₂ (Report.Alike c c') (c.expandAll ds).reports (c'.expandAll ds).reports) ∧
    -- the name of the standard store
    ∀ p a, ResolvedProperty.accessor p = .ok a →
      (∀ source, a.store = .expr source → ∀ name name', a.render name = a.render name') ∧
      (a.store = .standard → ∀ name name', a.render name = (a.onStore (.expr name)).render name') := by
  refine ⟨alike_expand c c', alike_expandSpec c c', fun ds => ⟨?_, forall₂_alike_reports c c' ds⟩,
    fun p a built => ⟨fun source own name name' => ?_, fun standard name name' => ?_⟩⟩
  · rw [properties_expandAll, properties_expandAll]
    exact List.map_congr_left fun d _ => entry_eq_entry c c' d
  · obtain ⟨get, set⟩ := Accessor.store_of_accessor built
    have shared : a.set.store = .expr source := set.trans (get.symm.trans own)
    calc a.render name
      _ = (a.onStore (.expr source)).render "" := Accessor.render_eq_onStore own shared name ""
      _ = a.render name' := (Accessor.render_eq_onStore own shared name' "").symm
  · obtain ⟨get, set⟩ := Accessor.store_of_accessor built
    exact Accessor.render_eq_onStore standard (set.trans (get.symm.trans standard)) name name'

/-- One fault of each stage, under a domain of one's own: an argument without a label, a default without a type, and a
blank key. -/
example :
    let c : Config := { domain := "org.example" }
    (c.expandAll [⟨"a", some [⟨none, .int 1, "1"⟩]⟩, ⟨"b", some [⟨some "default_value", .unsupported "[1]", "[1]"⟩]⟩,
      ⟨"c", some [⟨some "default_value", .int 1, "1"⟩, ⟨some "key", .str "", " "⟩]⟩]).reports.map
        (fun r => (r.site, r.diagnostic.id)) =
      [("a", "org.example.syntax_parse_error"), ("b", "org.example.unsupported_type"),
        ("c", "org.example.syntax_parse_error")] := by
  decide +kernel

end StoredProperty
