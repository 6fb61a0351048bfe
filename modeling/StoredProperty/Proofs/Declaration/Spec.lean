import StoredProperty.Declaration

/-!
# Reading a declaration

`PropertySpec.Outcome` says what `PropertySpec.ofDeclaration` does with a declaration: it looks at the argument list, at
the name, at the arguments from left to right, and at what they add up to, and the first of these that is wrong settles
the fault. `PropertySpec.outcome_ofDeclaration` is the only place where the function is opened. That every fault found
on the way is one of syntax (`PropertySpec.kind_of_ofDeclaration`) needs an induction on the arguments.
-/

namespace StoredProperty.PropertySpec

/-- What a declaration is read as. -/
inductive Outcome (d : Declaration) : Except Fault PropertySpec → Prop
  | missingArguments (absent : d.arguments = none) : Outcome d (.error .missingArguments)
  | missingName {arguments : List Argument} (list : d.arguments = some arguments) (blank : Text.trim d.name = "") :
      Outcome d (.error .missingName)
  | argument {arguments : List Argument} {f : Fault} (list : d.arguments = some arguments)
      (named : Text.trim d.name ≠ "") (fault : arguments.foldlM Given.take {} = .error f) : Outcome d (.error f)
  | missingDefault {arguments : List Argument} {given : Given} (list : d.arguments = some arguments)
      (named : Text.trim d.name ≠ "") (total : arguments.foldlM Given.take {} = .ok given)
      (absent : given.default = none) : Outcome d (.error .missingDefault)
  | spec {arguments : List Argument} {given : Given} {default : DefaultValue} (list : d.arguments = some arguments)
      (named : Text.trim d.name ≠ "") (total : arguments.foldlM Given.take {} = .ok given)
      (present : given.default = some default) :
      Outcome d (.ok { name := Text.trim d.name, default, key := given.key, store := given.store })

/-- Every declaration has the outcome that the rules give. -/
theorem outcome_ofDeclaration (d : Declaration) : Outcome d (ofDeclaration d) := by
  unfold ofDeclaration
  cases list : d.arguments with
  | none => exact .missingArguments list
  | some arguments =>
    by_cases named : Text.trim d.name = ""
    · simp only [named]
      exact .missingName list named
    · simp only [String.isEmpty_iff, named, if_false]
      cases total : arguments.foldlM Given.take {} with
      | error f => exact .argument list named total
      | ok given =>
        cases default : given.default with
        | none =>
          simp only [bind, Except.bind, default]
          exact .missingDefault list named total default
        | some value =>
          simp only [bind, Except.bind, default]
          exact .spec list named total default

/-- What is wrong with an argument is a syntax error. -/
theorem Given.kind_of_take {given : Given} {a : Argument} {f : Fault} (h : given.take a = .error f) :
    f.kind = .syntaxError := by
  unfold Given.take at h
  split at h
  · cases h; rfl
  · split at h
    · cases h; rfl
    all_goals split at h <;> cases h; rfl

theorem Given.kind_of_foldlM {given : Given} {arguments : List Argument} {f : Fault}
    (h : arguments.foldlM Given.take given = .error f) : f.kind = .syntaxError := by
  induction arguments generalizing given with
  | nil => cases h
  | cons a arguments ih =>
    rw [List.foldlM_cons] at h
    cases taken : given.take a with
    | error g =>
      rw [taken] at h
      cases h
      exact Given.kind_of_take taken
    | ok next =>
      rw [taken] at h
      exact ih h

variable {d : Declaration}

/-- Every fault of a declaration that does not make sense is one of syntax. -/
theorem kind_of_ofDeclaration {f : Fault} (h : ofDeclaration d = .error f) : f.kind = .syntaxError := by
  have outcome := outcome_ofDeclaration d
  rw [h] at outcome
  cases outcome with
  | argument _ _ fault => exact Given.kind_of_foldlM fault
  | missingArguments | missingName | missingDefault => rfl

/-- A declaration is read as a spec when nothing is wrong on the way. -/
theorem ofDeclaration_of_given {arguments : List Argument} {given : Given} {default : DefaultValue}
    (list : d.arguments = some arguments) (named : Text.trim d.name ≠ "")
    (total : arguments.foldlM Given.take {} = .ok given) (present : given.default = some default) :
    ofDeclaration d = .ok { name := Text.trim d.name, default, key := given.key, store := given.store } := by
  have outcome := outcome_ofDeclaration d
  generalize ofDeclaration d = result at outcome ⊢
  cases outcome with
  | missingArguments absent => simp [list] at absent
  | missingName _ blank => exact absurd blank named
  | argument list' _ fault =>
    cases list.symm.trans list'
    cases total.symm.trans fault
  | missingDefault list' _ total' absent =>
    cases list.symm.trans list'
    cases total.symm.trans total'
    simp [present] at absent
  | spec list' _ total' present' =>
    cases list.symm.trans list'
    cases total.symm.trans total'
    cases present.symm.trans present'
    rfl

/-- A spec has the declaration's name, without the white space around it. -/
theorem name_of_ofDeclaration {s : PropertySpec} (h : ofDeclaration d = .ok s) : s.name = Text.trim d.name := by
  have outcome := outcome_ofDeclaration d
  rw [h] at outcome
  cases outcome with
  | spec => rfl

end StoredProperty.PropertySpec
