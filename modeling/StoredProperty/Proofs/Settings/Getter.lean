import StoredProperty.Proofs.Settings.History

/-!
# What a getter answers

A getter looks at its property's cell and at nothing else: it returns the default where the cell is empty, and what is
held there read in the property's type otherwise. With the history of the cell this gives `Property.get_of_history`:
the answer after a run is settled by the steps that wrote the cell, whichever properties or operations they came from.
-/

namespace StoredProperty.Property

variable {p : Property} {s t : Stores}

/-- A getter of an empty cell returns the default. -/
theorem get_of_absent (h : s.value? p.place p.key = none) : p.get s = p.default := by
  simp [get, Stores.contains_store, h]

/-- A getter of a cell that is held returns what is held, read in the property's type. -/
theorem get_of_held {v : StoredValue} (h : s.value? p.place p.key = some v) : p.get s = v.readAs p.default := by
  have read : (s.store p.place).readAs p.key p.default = v.readAs p.default := MemoryStore.readAs_of_held h _
  simp [get, Stores.contains_store, h, read]

/-- The answer of a getter, from what its cell holds. -/
theorem get_eq (p : Property) (s : Stores) :
    p.get s = (s.value? p.place p.key).elim p.default fun v => v.readAs p.default := by
  cases h : s.value? p.place p.key with
  | none => rw [get_of_absent h]; rfl
  | some v => rw [get_of_held h]; rfl

/-- A getter looks at its cell only. -/
theorem get_congr (same : s.value? p.place p.key = t.value? p.place p.key) : p.get s = p.get t := by
  rw [get_eq, get_eq, same]

/-- What a setter leaves in a cell. -/
theorem value?_set (p : Property) (v : StoredValue) (s : Stores) (place : Place) (key : String) :
    (p.set v s).value? place key = if p.place = place ∧ p.key = key then some v else s.value? place key := by
  have step : (p.set v s).value? place key = _ := s.value?_afterStep (.set p v) place key
  rw [step, Step.effect]
  split <;> rfl

/-- After the setter of a property every property of the same cell reads the new value. -/
theorem get_afterStep_set {q : Property} (here : q.place = p.place) (same : q.key = p.key) (v : StoredValue) :
    p.get (s.afterStep (.set q v)) = v.readAs p.default := by
  refine get_of_held ?_
  rw [Stores.value?_afterStep]
  simp [Step.effect, Effect.apply, here, same]

/-- A step that does not write the cell leaves the answer. -/
theorem get_afterStep_of_not_writes {step : Step} (h : step.writes p.place p.key = false) :
    p.get (s.afterStep step) = p.get s := by
  refine get_congr ?_
  rw [Stores.value?_afterStep, Step.effect_eq_kept_iff.2 h]
  rfl

/-- **A getter answers by the history of its own cell.** The value that anyone wrote there last is read in the
property's type, and without one the default is returned; steps that do not write the cell do not count. So a getter
gives back what its own setter stored, no getter changes a store, and properties of one cell share what is held there. -/
theorem get_of_history {s : Stores} (new : s.IsNew) (past : List Step) (p : Property) :
    (∀ v, LastWritten p.place p.key v past →
      ((s.runSteps past).store p.place).contains p.key = true ∧ p.get (s.runSteps past) = v.readAs p.default) ∧
    ((∀ v, ¬ LastWritten p.place p.key v past) →
      ((s.runSteps past).store p.place).contains p.key = false ∧ p.get (s.runSteps past) = p.default) ∧
    -- steps that do not write the cell may be left out
    (∀ other, other.filter (Step.writes p.place p.key) = past.filter (Step.writes p.place p.key) →
      p.get (s.runSteps other) = p.get (s.runSteps past)) ∧
    -- the getter after its own setter
    (∀ before v after, past = before ++ .set p v :: after → v.kind = p.default.kind →
      (∀ step ∈ after, step.writes p.place p.key = false) → p.get (s.runSteps past) = v) ∧
    (∀ q, s.runSteps (past ++ [.get q]) = s.runSteps past) ∧
    (∀ step, step.writes p.place p.key = false →
      p.get (s.runSteps (past ++ [step])) = p.get (s.runSteps past)) ∧
    -- properties of the same cell
    (∀ q v, q.place = p.place → q.key = p.key → p.get (s.runSteps (past ++ [.set q v])) = v.readAs p.default) ∧
    ∃ held : Option StoredValue, ∀ q : Property, q.place = p.place → q.key = p.key →
      q.get (s.runSteps past) = held.elim q.default fun v => v.readAs q.default := by
  have held (v : StoredValue) (last : LastWritten p.place p.key v past) :
      (s.runSteps past).value? p.place p.key = some v := (Stores.value?_runSteps_eq_some_iff new).2 last
  refine ⟨fun v last => ?_, fun never => ?_, fun other same => ?_, ?_, fun q => ?_, fun step h => ?_,
    fun q v here same => ?_, (s.runSteps past).value? p.place p.key, fun q here same => ?_⟩
  · rw [Stores.contains_store, get_of_held (held v last), held v last]
    exact ⟨rfl, rfl⟩
  · have absent : (s.runSteps past).value? p.place p.key = none := by
      refine Option.eq_none_iff_forall_ne_some.2 fun v h => ?_
      exact never v ((Stores.value?_runSteps_eq_some_iff new).1 h)
    rw [Stores.contains_store, get_of_absent absent, absent]
    exact ⟨rfl, rfl⟩
  · have hidden (step : Step) : step.writes p.place p.key = false → step.effect p.place p.key = .kept :=
      Step.effect_eq_kept_iff.2
    refine get_congr ?_
    rw [Stores.value?_runSteps, Stores.value?_runSteps, ← Effect.left_filter _ hidden, same,
      Effect.left_filter _ hidden]
  · rintro before v after rfl kind keep
    have last : LastWritten p.place p.key v (before ++ .set p v :: after) :=
      ⟨before, _, after, rfl, .setter rfl rfl, keep⟩
    rw [get_of_held (held v last), StoredValue.readAs_of_kind kind]
  · rw [Stores.runSteps_snoc, Stores.afterStep_get]
  · rw [Stores.runSteps_snoc, get_afterStep_of_not_writes h]
  · rw [Stores.runSteps_snoc, get_afterStep_set here same]
  · rw [get_eq, here, same]

/-- A number under a key that a text shares: the text's getter returns its default, and the twin reads the number. -/
theorem get_of_history_shared :
    let pageSize : Property := ⟨.int 10, "page_size", .own⟩
    let pageLabel : Property := ⟨.string "shared", "page_size", .own⟩
    let past : List Step :=
      [.operate .own (.set "page_size" (.string "7")), .set pageSize (.int 25), .operate .standard .clear,
        .get pageLabel]
    Settings.property? "page_label" = some pageLabel ∧ Settings.property? "twin.page_size" = some pageSize ∧
      Settings.fresh.IsNew ∧ LastWritten .own "page_size" (.int 25) past ∧
      pageLabel.get (Settings.fresh.runSteps past) = .string "shared" ∧
      pageSize.get (Settings.fresh.runSteps past) = .int 25 := by
  intro pageSize pageLabel past
  have new : Settings.fresh.IsNew := ⟨.empty, .named _⟩
  have last : LastWritten .own "page_size" (.int 25) past :=
    ⟨past.take 1, _, past.drop 2, rfl, .setter rfl rfl, by simp [past, Step.writes]⟩
  refine ⟨rfl, rfl, new, last, ?_, ?_⟩
  · exact ((get_of_history new past pageLabel).1 _ last).2
  · exact ((get_of_history new past pageSize).1 _ last).2

end StoredProperty.Property
