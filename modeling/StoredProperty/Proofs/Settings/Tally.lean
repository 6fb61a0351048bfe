import StoredProperty.Proofs.Settings.Deletions

/-!
# Deletions counted over a run

In a run nothing but deletions may write the cell of the count; all else may be done in between, to other cells of both
stores and by any property. `Counted` says what is then known after any number of deletions. It holds at first, and one
more deed keeps it (`Counted.other`, `Counted.deletion`); so it holds throughout, and no deletion is refused as long as
the count stays in the range: `App.run?_counts`.
-/

namespace StoredProperty.App

/-- What is done in a run: an action on the settings, or a step of any property or store. -/
inductive Deed where
  | act (a : Action)
  | other (step : Step)

/-- The property that an action sets. -/
def Action.property : Action → Property
  | enableNotification _ => App.enableNotification
  | setUser _ => userId
  | setDeleteCount _ | recordDelete => deleteCount

namespace Deed

def isDeletion : Deed → Bool
  | act .recordDelete => true
  | _ => false

/-- The deed may change what stands in the cell. -/
def writes (place : Place) (key : String) : Deed → Bool
  | act a => a.property.place = place && a.property.key = key
  | other step => step.writes place key

/-- The total that a deletion answers, and the stores after the deed. -/
def perform? (s : Stores) : Deed → Option (Option Int64 × Stores)
  | act .recordDelete => (recordDelete? s).map fun (total, next) => (some total, next)
  | act a => (App.perform? s a).map fun (next, _) => (none, next)
  | other step => some (none, s.afterStep step)

end Deed

/-- A run: the totals of its deletions, and the stores at the end. It fails when a deed is refused. -/
def run? (s : Stores) (deeds : List Deed) : Option (List Int64 × Stores) :=
  deeds.foldlM (fun (totals, now) deed => (deed.perform? now).map fun (total, next) => (totals ++ total.toList, next))
    ([], s)

def deletionsIn (deeds : List Deed) : Nat := deeds.countP Deed.isDeletion

/-- After `k` deletions: the totals are those that follow the first count, the count is the last of them, and its cell
holds it as an integer. -/
structure Counted (s : Stores) (k : Nat) (totals : List Int64) (now : Stores) : Prop where
  totals_eq : totals.map Int64.toInt = (List.range k).map fun i => (deletions s).toInt + (i + 1 : Nat)
  count_eq : (deletions now).toInt = (deletions s).toInt + k
  held : 0 < k → now.value? .standard "delete_count" = some (.int (deletions now))

section

variable {s now next : Stores} {k : Nat} {totals : List Int64}

/-! ## One deed -/

/-- The count is what its cell says. -/
theorem deletions_congr (same : next.value? .standard "delete_count" = now.value? .standard "delete_count") :
    deletions next = deletions now := by
  rw [deletions_eq, deletions_eq, same]

/-- A deed that does not write the cell is done, and leaves it. -/
theorem Deed.exists_perform?_of_not_writes {deed : Deed} (beside : deed.writes .standard "delete_count" = false)
    (now : Stores) : ∃ next, deed.perform? now = some (none, next) ∧
      next.value? .standard "delete_count" = now.value? .standard "delete_count" := by
  cases deed with
  | act a =>
    cases a with
    | enableNotification b =>
      refine ⟨_, rfl, ?_⟩
      rw [Property.value?_set, if_neg (by decide)]
    | setUser user =>
      refine ⟨_, rfl, ?_⟩
      rw [Property.value?_set, if_neg (by decide)]
    | setDeleteCount n => exact absurd beside (by simp [writes, Action.property, deleteCount])
    | recordDelete => exact absurd beside (by simp [writes, Action.property, deleteCount])
  | other step =>
    refine ⟨_, rfl, ?_⟩
    rw [Stores.value?_afterStep, Step.effect_eq_kept_iff.2 beside]
    rfl

theorem Deed.perform?_of_isDeletion {deed : Deed} (deletion : deed.isDeletion = true) (now : Stores) :
    deed.perform? now = (recordDelete? now).map fun (total, next) => (some total, next) := by
  unfold isDeletion at deletion
  split at deletion
  · rfl
  · cases deletion

theorem Counted.zero (s : Stores) : Counted s 0 [] s := ⟨rfl, by simp, fun none => absurd none (by decide)⟩

/-- A deed beside the count leaves the invariant. -/
theorem Counted.other (counted : Counted s k totals now)
    (same : next.value? .standard "delete_count" = now.value? .standard "delete_count") :
    Counted s k totals next := by
  have count : deletions next = deletions now := deletions_congr same
  refine ⟨counted.totals_eq, ?_, fun some => ?_⟩
  · rw [count, counted.count_eq]
  · rw [same, count, counted.held some]

/-- Below the end of the range one more deletion is counted, whatever the cell holds. -/
theorem Counted.deletion (counted : Counted s k totals now)
    (room : (deletions s).toInt + (k + 1 : Nat) ≤ Int64.maxValue.toInt) :
    ∃ total next, recordDelete? now = some (total, next) ∧ Counted s (k + 1) (totals ++ [total]) next := by
  cases done : recordDelete? now with
  | none =>
    have last : (deletions now).toInt = Int64.maxValue.toInt := congrArg Int64.toInt (recordDelete?_eq_none_iff.1 done)
    have count := counted.count_eq
    omega
  | some answer =>
    obtain ⟨total, next⟩ := answer
    obtain ⟨sum, rfl⟩ := recordDelete?_eq_some_iff.1 done
    have total_eq : total.toInt = (deletions s).toInt + (k + 1 : Nat) := by
      rw [sum, counted.count_eq]
      omega
    refine ⟨total, _, rfl, ?_, ?_, fun _ => ?_⟩
    · rw [List.map_append, counted.totals_eq, List.range_succ, List.map_append]
      simp [total_eq]
    · rw [deletions_set, total_eq]
    · rw [deletions_set, value?_set_deleteCount, if_pos ⟨rfl, rfl⟩]

/-! ## Runs -/

/-- A run is split at its last deed. -/
theorem run?_snoc (s : Stores) (deeds : List Deed) (deed : Deed) :
    run? s (deeds ++ [deed]) = (run? s deeds).bind fun (totals, now) =>
      (deed.perform? now).map fun (total, next) => (totals ++ total.toList, next) := by
  simp [run?, List.foldlM_append]

/-- A run with nothing beside deletions in the cell of the count. -/
theorem exists_run?_counted {deeds : List Deed}
    (alone : ∀ deed ∈ deeds, deed.writes .standard "delete_count" = true → deed.isDeletion = true)
    (room : (deletions s).toInt + deletionsIn deeds ≤ Int64.maxValue.toInt) :
    ∃ totals now, run? s deeds = some (totals, now) ∧ Counted s (deletionsIn deeds) totals now := by
  induction deeds using List.reverseRecOn with
  | nil => exact ⟨[], s, rfl, Counted.zero s⟩
  | append_singleton deeds deed ih =>
    have count : deletionsIn (deeds ++ [deed]) = deletionsIn deeds + if deed.isDeletion then 1 else 0 := by
      simp [deletionsIn, List.countP_append, List.countP_singleton]
    have before : ∀ d ∈ deeds, d.writes .standard "delete_count" = true → d.isDeletion = true :=
      fun d here => alone d (List.mem_append_left _ here)
    obtain ⟨totals, now, run, counted⟩ := ih before (by omega)
    by_cases deletion : deed.isDeletion = true
    · rw [if_pos deletion] at count
      rw [count] at room ⊢
      obtain ⟨total, next, done, counted⟩ := counted.deletion room
      refine ⟨totals ++ [total], next, ?_, counted⟩
      simp [run?_snoc, run, deed.perform?_of_isDeletion deletion, done]
    · rw [if_neg deletion, Nat.add_zero] at count
      rw [count]
      have beside : deed.writes .standard "delete_count" = false :=
        Bool.eq_false_iff.2 fun wrote => deletion (alone deed (by simp) wrote)
      obtain ⟨next, done, same⟩ := Deed.exists_perform?_of_not_writes beside now
      refine ⟨totals, next, ?_, counted.other same⟩
      simp [run?_snoc, run, done]

/-- **Deletions are counted exactly throughout a run** in which nothing but deletions writes the cell of the count,
whatever the stores hold at first, as long as the count stays in the range. No deed is refused; at every point the
totals so far follow the first count one by one, the count has grown by their number, and from the first deletion on its
cell holds it as an integer. A deletion changes no other cell of either store. -/
theorem run?_counts (s : Stores) (deeds : List Deed)
    (alone : ∀ deed ∈ deeds, deed.writes .standard "delete_count" = true → deed.isDeletion = true)
    (room : (deletions s).toInt + deletionsIn deeds ≤ Int64.maxValue.toInt) :
    (∀ before, before <+: deeds →
      ∃ totals now, run? s before = some (totals, now) ∧ Counted s (deletionsIn before) totals now) ∧
    ∀ now total next, recordDelete? now = some (total, next) →
      ∀ place key, ¬ (place = .standard ∧ key = "delete_count") → next.value? place key = now.value? place key := by
  constructor
  · intro before start
    have fewer : deletionsIn before ≤ deletionsIn deeds := start.sublist.countP_le
    exact exists_run?_counted (fun deed here => alone deed (start.subset here)) (by omega)
  · intro now total next done place key other
    obtain ⟨-, rfl⟩ := recordDelete?_eq_some_iff.1 done
    rw [value?_set_deleteCount, if_neg other]

end

/-- From a text that says a number: in between, a reminder is set, somebody signs in, the account's store is cleared,
and the count is asked for. -/
theorem run?_counts_from_text :
    let s : Stores := fresh.after .standard (.set "delete_count" (.string " 41.9"))
    let deeds : List Deed := [.act (.enableNotification true), .act .recordDelete, .act (.setUser "ada"),
      .other (.operate .own .clear), .act .recordDelete, .other (.get deleteCount),
      .other (.operate .own (.set "delete_count" (.int 7)))]
    (∀ deed ∈ deeds, deed.writes .standard "delete_count" = true → deed.isDeletion = true) ∧
      (deletions s).toInt + deletionsIn deeds ≤ Int64.maxValue.toInt ∧
      ∃ totals now, run? s deeds = some (totals, now) ∧ totals.map Int64.toInt = [42, 43] ∧
        (deletions now).toInt = 43 := by
  intro s deeds
  have alone : ∀ deed ∈ deeds, deed.writes .standard "delete_count" = true → deed.isDeletion = true := by
    simp [deeds, Deed.writes, Deed.isDeletion, Action.property, Step.writes, enableNotification, userId, deleteCount]
  have first : deletions s = 41 := by decide +kernel
  have room : (deletions s).toInt + deletionsIn deeds ≤ Int64.maxValue.toInt := by
    rw [first]
    decide
  obtain ⟨totals, now, run, counted⟩ := (run?_counts s deeds alone room).1 deeds (List.prefix_refl deeds)
  refine ⟨alone, room, totals, now, run, ?_, ?_⟩
  · rw [counted.totals_eq, first]
    decide
  · rw [counted.count_eq, first]
    decide

end StoredProperty.App
