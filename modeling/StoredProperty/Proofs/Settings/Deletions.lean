import StoredProperty.Proofs.Settings.Getter
import StoredProperty.Settings.App

/-!
# Counting deletions

The count of deletions is whatever its cell holds, read as an integer, so anybody can put it at the end of the range.
There one more deletion is refused; everywhere else the count grows by exactly one and nothing but its cell changes:
`App.recordDelete_counts`.
-/

namespace StoredProperty.App

/-- An empty cell counts for nothing. -/
theorem deletions_eq (s : Stores) :
    deletions s = ((s.value? .standard "delete_count").map StoredValue.asInteger).getD 0 := by
  have cell : s.value? deleteCount.place deleteCount.key = s.value? .standard "delete_count" := rfl
  rw [deletions, Property.get_eq, cell]
  cases s.value? .standard "delete_count" <;> rfl

/-- The count is at its end only when the cell holds something that reads so. -/
theorem deletions_eq_max_iff {s : Stores} :
    deletions s = Int64.maxValue ↔
      ∃ v, s.value? .standard "delete_count" = some v ∧ v.asInteger = Int64.maxValue := by
  rw [deletions_eq]
  cases held : s.value? .standard "delete_count" with
  | none =>
    constructor
    · intro zero
      exact absurd zero (by decide)
    · rintro ⟨v, absent, -⟩
      cases absent
  | some v => simp

/-- The count after it was set. -/
theorem deletions_set (n : Int64) (s : Stores) : deletions (deleteCount.set (.int n) s) = n := by
  have read : deleteCount.get (s.afterStep (.set deleteCount (.int n))) = .int n := Property.get_afterStep_set rfl rfl _
  exact congrArg StoredValue.asInteger read

/-- What setting the count does to any cell. -/
theorem value?_set_deleteCount (n : Int64) (s : Stores) (place : Place) (key : String) :
    (deleteCount.set (.int n) s).value? place key =
      if place = .standard ∧ key = "delete_count" then some (.int n) else s.value? place key := by
  simp only [Property.value?_set, deleteCount, eq_comm]

/-- One more deletion is one more than the count, and stored. -/
theorem recordDelete?_eq_some_iff {s next : Stores} {total : Int64} :
    recordDelete? s = some (total, next) ↔
      total.toInt = (deletions s).toInt + 1 ∧ next = deleteCount.set (.int total) s := by
  simp only [recordDelete?, Option.map_eq_some_iff, Text.toInt64?_eq_some_iff, Prod.mk.injEq]
  constructor
  · rintro ⟨n, sum, rfl, rfl⟩
    exact ⟨sum, rfl⟩
  · rintro ⟨sum, rfl⟩
    exact ⟨total, sum, rfl, rfl⟩

/-- One more deletion is refused at the end of the range. -/
theorem recordDelete?_eq_none_iff {s : Stores} : recordDelete? s = none ↔ deletions s = Int64.maxValue := by
  have low := (deletions s).minValue_le_toInt
  have high := (deletions s).toInt_le
  simp only [recordDelete?, Option.map_eq_none_iff, Text.toInt64?_eq_none_iff]
  rw [← Int64.toInt_inj]
  omega

/-- The action does what one more deletion does. -/
theorem perform?_recordDelete (s : Stores) :
    perform? s .recordDelete =
      (recordDelete? s).map fun (total, next) => (next, deleteCount.setEvents (.int total) s) := by
  simp only [perform?, Action.write?, recordDelete?, Option.map_map, Function.comp_def]

/-- The action that succeeds stores the next count, and tells of nothing else. -/
theorem perform?_recordDelete_eq_some_iff {s after : Stores} {events : List StoreEvent} :
    perform? s .recordDelete = some (after, events) ↔ ∃ n : Int64, n.toInt = (deletions s).toInt + 1 ∧
      after = deleteCount.set (.int n) s ∧ events = deleteCount.setEvents (.int n) s := by
  simp only [perform?_recordDelete, Option.map_eq_some_iff, Prod.exists, recordDelete?_eq_some_iff, Prod.mk.injEq]
  constructor
  · rintro ⟨n, _, ⟨next, rfl⟩, rfl, rfl⟩
    exact ⟨n, next, rfl, rfl⟩
  · rintro ⟨n, next, rfl, rfl⟩
    exact ⟨n, _, ⟨next, rfl⟩, rfl, rfl⟩

/-- The action is refused at the end of the range and nowhere else. -/
theorem perform?_recordDelete_eq_none_iff {s : Stores} :
    perform? s .recordDelete = none ↔ deletions s = Int64.maxValue := by
  rw [perform?_recordDelete, Option.map_eq_none_iff, recordDelete?_eq_none_iff]

/-- **One more deletion is counted exactly, or refused.** It is refused just when the cell holds something that reads as
the largest integer. Otherwise the count is one larger and within the range, its cell holds it as an integer, and no
other cell of either store has changed. -/
theorem recordDelete_counts (s : Stores) :
    (perform? s .recordDelete = none ↔
      ∃ v, s.value? .standard "delete_count" = some v ∧ v.asInteger = Int64.maxValue) ∧
    ∀ after events, perform? s .recordDelete = some (after, events) →
      (deletions after).toInt = (deletions s).toInt + 1 ∧
      after.value? .standard "delete_count" = some (.int (deletions after)) ∧
      ∀ place key, ¬ (place = .standard ∧ key = "delete_count") → after.value? place key = s.value? place key := by
  constructor
  · rw [perform?_recordDelete_eq_none_iff, deletions_eq_max_iff]
  · intro after events done
    obtain ⟨n, next, rfl, -⟩ := perform?_recordDelete_eq_some_iff.1 done
    rw [deletions_set, value?_set_deleteCount]
    refine ⟨next, if_pos ⟨rfl, rfl⟩, fun place key other => ?_⟩
    rw [value?_set_deleteCount, if_neg other]

/-- A text that says the largest integer is enough to refuse the next deletion. -/
example : perform? (fresh.after .standard (.set "delete_count" (.string " 9223372036854775807"))) .recordDelete = none := by
  decide +kernel

end StoredProperty.App
