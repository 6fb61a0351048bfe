import StoredProperty.Expansion

/-!
# Expanding a list

The declarations of a list share one reporter. `Config.expandInto_eq` says what one declaration adds to it, and
`Config.expandEach_eq` carries this through a list: the reporter holds what it held before, and behind that the reports
of the declarations that failed, in their order. So nothing of one declaration reaches another, and
`Config.expandAll_pointwise` follows: a list is expanded as its declarations are one by one. Names may repeat, and
`Config.accessor?_eq_none_iff` says when looking one up finds nothing.
-/

namespace StoredProperty.Config

/-- The entry of a declaration by itself. -/
def entry (c : Config) (d : Declaration) : ExpandedProperty := ⟨d.name, (c.expand d).toOption⟩

/-- The report of a declaration by itself: its error, if it has one, under the name that it was declared with. -/
def report? (c : Config) (d : Declaration) : Option Report :=
  match c.expand d with
  | .ok _ => none
  | .error e => some ⟨d.name, e⟩

variable {c : Config}

/-- One declaration adds its own report to the reporter, if it has one, and nothing else. -/
theorem expandInto_eq (d : Declaration) (r : Reporter) :
    c.expandInto d r = ((c.expand d).toOption, ⟨r.reports ++ (c.report? d).toList⟩) := by
  unfold expandInto report?
  cases c.expand d with
  | ok a => simp [Except.toOption]
  | error e => rfl

/-- The reporter's invariant: it has the reports of the declarations so far behind those that it came with. -/
theorem expandEach_eq (ds : List Declaration) (r : Reporter) :
    c.expandEach ds r = (ds.map c.entry, ⟨r.reports ++ ds.filterMap c.report?⟩) := by
  induction ds generalizing r with
  | nil => simp [expandEach]
  | cons d ds ih =>
    have rest : (c.report? d).toList ++ ds.filterMap c.report? = (d :: ds).filterMap c.report? := by
      cases h : c.report? d <;> simp [h]
    rw [expandEach, expandInto_eq]
    simp only [ih, List.append_assoc, rest]
    rfl

/-- Each declaration has its entry. -/
theorem properties_expandAll (ds : List Declaration) : (c.expandAll ds).properties = ds.map c.entry := by
  rw [expandAll, expandEach_eq]

/-- Each declaration that fails has its report. -/
theorem reports_expandAll (ds : List Declaration) : (c.expandAll ds).reports = ds.filterMap c.report? := by
  rw [expandAll, expandEach_eq]
  rfl

/-- A name's accessor is that of the first declaration with the name. -/
theorem accessor?_expandAll (c : Config) (ds : List Declaration) (name : String) :
    (c.expandAll ds).accessor? name = (ds.find? (·.name = name)).bind fun d => (c.expand d).toOption := by
  rw [Expansion.accessor?, properties_expandAll, List.find?_map]
  have names : (fun p : ExpandedProperty => decide (p.name = name)) ∘ c.entry = fun d => decide (d.name = name) := rfl
  rw [names]
  cases ds.find? (·.name = name) <;> rfl

theorem isSome_report? (d : Declaration) : (c.report? d).isSome = (c.entry d).accessor.isNone := by
  unfold entry report?
  cases c.expand d <;> rfl

theorem length_reports (ds : List Declaration) :
    (ds.filterMap c.report?).length = (ds.map c.entry).countP (·.accessor.isNone) := by
  rw [List.length_filterMap_eq_countP, List.countP_map]
  exact List.countP_congr fun d _ => by simp [isSome_report?]

/-- The reports of two lists are those of the one behind those of the other. -/
theorem reports_expandAll_append (xs ys : List Declaration) :
    (c.expandAll (xs ++ ys)).reports = (c.expandAll xs).reports ++ (c.expandAll ys).reports := by
  simp only [reports_expandAll, List.filterMap_append]

/-- The reports around the declaration at a position are those of the lists before and after it. -/
theorem reports_expandAll_split {ds : List Declaration} {i : Nat} (h : i < ds.length) :
    (c.expandAll ds).reports =
      (c.expandAll (ds.take i)).reports ++ (c.report? ds[i]).toList ++ (c.expandAll (ds.drop (i + 1))).reports := by
  have parts : ds = ds.take i ++ ([ds[i]] ++ ds.drop (i + 1)) := by simp
  have own : (c.expandAll [ds[i]]).reports = (c.report? ds[i]).toList := by
    rw [reports_expandAll]
    cases found : c.report? ds[i] <;> simp [found]
  rw [← own, List.append_assoc, ← reports_expandAll_append, ← reports_expandAll_append, ← parts]

/-- **A list is expanded one by one.** Every declaration has its entry and every failing one its report, in their
order and as if it were alone. So there is a report for each entry without an accessor, lists may be expanded in parts,
and another declaration in place of one changes its entry and its report only. -/
theorem expandAll_pointwise (c : Config) (ds : List Declaration) :
    (c.expandAll ds).properties = ds.map c.entry ∧
    (c.expandAll ds).reports = ds.filterMap c.report? ∧
    (c.expandAll ds).reports.length = (c.expandAll ds).properties.countP (·.accessor.isNone) ∧
    ((c.expandAll ds).isClean = true ↔ ∀ p ∈ (c.expandAll ds).properties, ∃ a, p.accessor = some a) ∧
    (∀ others, c.expandAll (ds ++ others) =
      { properties := (c.expandAll ds).properties ++ (c.expandAll others).properties
        reports := (c.expandAll ds).reports ++ (c.expandAll others).reports }) ∧
    -- another declaration at one position
    (∀ i (h : i < ds.length) d,
      (c.expandAll (ds.set i d)).properties = (c.expandAll ds).properties.set i (c.entry d) ∧
      (c.expandAll ds).reports =
        (c.expandAll (ds.take i)).reports ++ (c.report? ds[i]).toList ++ (c.expandAll (ds.drop (i + 1))).reports ∧
      (c.expandAll (ds.set i d)).reports =
        (c.expandAll (ds.take i)).reports ++ (c.report? d).toList ++ (c.expandAll (ds.drop (i + 1))).reports) := by
  have counted : (c.expandAll ds).reports.length = (c.expandAll ds).properties.countP (·.accessor.isNone) := by
    rw [properties_expandAll, reports_expandAll, length_reports]
  refine ⟨properties_expandAll ds, reports_expandAll ds, counted, ?_, fun others => ?_, fun i h d => ⟨?_, ?_, ?_⟩⟩
  · rw [Expansion.isClean, List.isEmpty_iff_length_eq_zero, counted, List.countP_eq_zero]
    have present (p : ExpandedProperty) : ¬ p.accessor.isNone = true ↔ ∃ a, p.accessor = some a := by
      cases p.accessor <;> simp
    simp only [present]
  · rw [Expansion.ext_iff]
    exact ⟨by simp only [properties_expandAll, List.map_append], reports_expandAll_append ds others⟩
  · simp only [properties_expandAll, List.map_set]
  · exact reports_expandAll_split h
  · have there : i < (ds.set i d).length := by
      rw [List.length_set]
      exact h
    have split := reports_expandAll_split (c := c) there
    rw [List.getElem_set_self, List.take_set_of_le (Nat.le_refl i), List.drop_set_of_lt (Nat.lt_succ_self i)] at split
    exact split

/-! ## Names that repeat -/

theorem toOption_expand_eq_none_iff {d : Declaration} : (c.expand d).toOption = none ↔ ∃ e, c.expand d = .error e := by
  cases c.expand d with
  | ok a => simp [Except.toOption]
  | error e => simp [Except.toOption]

section

variable {ds before after : List Declaration} {d : Declaration} {name : String}

/-- The first declaration of a name decides. -/
theorem accessor?_of_first (first : ∀ b ∈ before, b.name ≠ d.name) :
    (c.expandAll (before ++ d :: after)).accessor? d.name = (c.expand d).toOption := by
  have found : (before ++ d :: after).find? (·.name = d.name) = some d := by
    rw [List.find?_eq_some_iff_append]
    refine ⟨decide_eq_true rfl, before, after, rfl, fun b mem => ?_⟩
    simpa using first b mem
  rw [accessor?_expandAll, found]
  rfl

/-- **A name has no accessor** when no declaration has the name, or when the first that has it fails: a later one that
succeeds is hidden behind it. -/
theorem accessor?_eq_none_iff : (c.expandAll ds).accessor? name = none ↔
    (∀ d ∈ ds, d.name ≠ name) ∨
    ∃ before d after, ds = before ++ d :: after ∧ d.name = name ∧ (∀ b ∈ before, b.name ≠ name) ∧
      ∃ e, c.expand d = .error e := by
  constructor
  · intro hidden
    rw [accessor?_expandAll] at hidden
    cases found : ds.find? (·.name = name) with
    | none =>
      left
      intro d mem
      simpa using List.find?_eq_none.1 found d mem
    | some d =>
      right
      obtain ⟨same, before, after, split, first⟩ := List.find?_eq_some_iff_append.1 found
      rw [found, Option.bind_some] at hidden
      refine ⟨before, d, after, split, of_decide_eq_true same, fun b mem => ?_, toOption_expand_eq_none_iff.1 hidden⟩
      simpa using first b mem
  · rintro (absent | ⟨before, d, after, rfl, rfl, first, fails⟩)
    · have none : ds.find? (·.name = name) = none := by
        rw [List.find?_eq_none]
        intro d mem
        simpa using absent d mem
      rw [accessor?_expandAll, none]
      rfl
    · rw [accessor?_of_first first]
      exact toOption_expand_eq_none_iff.2 fails

end

/-- The second declaration succeeds, but the first has no arguments. -/
example :
    let ds : List Declaration := [⟨"a", none⟩, ⟨"a", some [⟨some "default_value", .bool true, "true"⟩]⟩]
    ((Config.expandAll {} ds).properties.map (·.accessor.isSome), (Config.expandAll {} ds).accessor? "a") =
      ([false, true], none) := by
  decide +kernel

end StoredProperty.Config
