import StoredProperty.Declaration

/-!
# Arguments that are read

An argument means what its label stands for, and a list of arguments in which everything means something and nothing
means the same twice is read to its end. `PropertySpec.Given.foldlM_take` says so, with what is then given: for each
meaning the one argument that has it (`Argument.ofMeaning?_eq_some_iff`), wherever it stands in the list.
-/

namespace StoredProperty

namespace Argument

/-- What the argument is for: its label is one of those that are known. -/
def meaning? (a : Argument) : Option Label := a.label.bind Label.ofText?

/-- The first argument for something. -/
def ofMeaning? (l : Label) (as : List Argument) : Option Argument := as.find? (·.meaning? = some l)

/-- Every argument is for something, and no two are for the same. -/
structure Distinct (as : List Argument) : Prop where
  known : ∀ a ∈ as, ∃ l, a.meaning? = some l
  nodup : (as.map meaning?).Nodup

variable {as bs : List Argument} {a : Argument} {l : Label}

theorem Distinct.left (h : Distinct (as ++ bs)) : Distinct as where
  known a ha := h.known a (List.mem_append_left _ ha)
  nodup := by
    have nodup := h.nodup
    rw [List.map_append, List.nodup_append] at nodup
    exact nodup.1

/-- The last argument is for something that none in front of it is for. -/
theorem Distinct.fresh (h : Distinct (as ++ [a])) (means : a.meaning? = some l) : ofMeaning? l as = none := by
  have nodup := h.nodup
  rw [List.map_append, List.nodup_append] at nodup
  rw [ofMeaning?, List.find?_eq_none]
  intro b hb same
  have there : b.meaning? ∈ as.map meaning? := List.mem_map_of_mem hb
  refine nodup.2.2 _ there a.meaning? (by simp) ?_
  rw [means]
  simpa using same

/-- Where arguments are distinct, a meaning finds the argument that has it. -/
theorem ofMeaning?_eq_some_iff (h : Distinct as) : ofMeaning? l as = some a ↔ a ∈ as ∧ a.meaning? = some l := by
  constructor
  · intro found
    exact ⟨List.mem_of_find?_eq_some found, by simpa using List.find?_some found⟩
  · rintro ⟨mem, means⟩
    obtain ⟨before, after, rfl⟩ := List.append_of_mem mem
    refine List.find?_eq_some_iff_append.2 ⟨by simpa using means, before, after, rfl, fun b hb => ?_⟩
    -- an earlier argument for the same would mean it twice
    have nodup := h.nodup
    rw [List.map_append, List.nodup_append] at nodup
    have different := nodup.2.2 b.meaning? (List.mem_map_of_mem hb) a.meaning? (by simp)
    simpa [means] using different

/-- Whether labels are known and single does not depend on the order. -/
theorem Distinct.perm (h : Distinct as) (same : as.Perm bs) : Distinct bs where
  known a ha := h.known a (same.mem_iff.2 ha)
  nodup := ((same.map meaning?).nodup_iff).1 h.nodup

/-- The order of distinct arguments does not matter. -/
theorem ofMeaning?_perm (h : Distinct as) (same : as.Perm bs) (l : Label) : ofMeaning? l as = ofMeaning? l bs := by
  refine Option.ext fun a => ?_
  rw [ofMeaning?_eq_some_iff h, ofMeaning?_eq_some_iff (h.perm same), same.mem_iff]

end Argument

namespace PropertySpec.Given

open Argument

/-- What a list of arguments gives. -/
def ofArguments (as : List Argument) : Given where
  default := (ofMeaning? .default as).map fun a => ⟨a.literal, a.source⟩
  key := (ofMeaning? .key as).map (·.source)
  store := (ofMeaning? .store as).map (·.source)

variable {as : List Argument} {a : Argument}

/-- One more argument, for something that has not been given yet. -/
theorem take_ofArguments (h : Distinct (as ++ [a])) : (ofArguments as).take a = .ok (ofArguments (as ++ [a])) := by
  obtain ⟨l, means⟩ := h.known a (by simp)
  have fresh := h.fresh means
  obtain ⟨text, labeled, read⟩ := Option.bind_eq_some_iff.1 means
  have others (k : Label) (other : k ≠ l) : ofMeaning? k (as ++ [a]) = ofMeaning? k as := by
    simp [ofMeaning?, List.find?_append, means, other.symm]
  have own : ofMeaning? l (as ++ [a]) = some a := by
    rw [ofMeaning?, List.find?_append]
    rw [ofMeaning?] at fresh
    simp [fresh, means]
  cases l <;> simp [take, labeled, read, ofArguments, fresh, own, others]

theorem foldlM_take_from (done : List Argument) (h : Distinct (done ++ as)) :
    as.foldlM take (ofArguments done) = .ok (ofArguments (done ++ as)) := by
  induction as generalizing done with
  | nil => simp [pure, Except.pure]
  | cons a as ih =>
    have parts : done ++ a :: as = (done ++ [a]) ++ as := by simp
    rw [parts] at h ⊢
    rw [List.foldlM_cons, take_ofArguments h.left]
    exact ih (done ++ [a]) h

/-- **Distinct arguments are read to the end**, and give what each of them is for. -/
theorem foldlM_take (h : Distinct as) : as.foldlM take {} = .ok (ofArguments as) := foldlM_take_from [] h

end PropertySpec.Given

end StoredProperty
