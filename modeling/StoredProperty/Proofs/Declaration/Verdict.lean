import Mathlib.Data.List.Induction
import StoredProperty.Proofs.Declaration.Arguments
import StoredProperty.Proofs.Declaration.Spec

/-!
# The verdict on a declaration

An argument can be wrong by itself, because its label is missing or unknown, or because of an argument in front of it
that means the same (`Argument.Wrong`). The arguments up to the first that is wrong are distinct, so that reading them
goes well, and the wrong one stops the reading (`Argument.FirstWrong`). Everything else is looked at before the
arguments or after the last of them: `PropertySpec.parse_eq_iff` says in five rules what becomes of a declaration.
-/

namespace StoredProperty

/-- The labels that are known, and what each is for. -/
inductive Label.Spells : String → Label → Prop
  | default : Spells "default_value" .default
  | alias : Spells "defaultValue" .default
  | key : Spells "key" .key
  | store : Spells "store" .store

/-- A label is known by its spellings. -/
theorem Label.ofText?_eq_some_iff {text : String} {l : Label} : ofText? text = some l ↔ Spells text l := by
  constructor
  · intro read
    unfold ofText? at read
    split at read
    · next isDefault =>
      cases read
      rcases Bool.or_eq_true_iff.1 isDefault with h | h
      · rw [decide_eq_true_eq] at h
        exact h ▸ .default
      · rw [decide_eq_true_eq] at h
        exact h ▸ .alias
    · split at read
      · next isKey =>
        cases read
        exact isKey ▸ .key
      · split at read
        · next isStore =>
          cases read
          exact isStore ▸ .store
        · cases read
  · rintro (_ | _ | _ | _) <;> rfl

namespace Argument

/-- What a labeled argument is for. -/
def Means (a : Argument) (l : Label) : Prop := ∃ text, a.label = some text ∧ Label.Spells text l

/-- What is wrong with an argument that stands behind others. -/
inductive Wrong (earlier : List Argument) (a : Argument) : String → Prop
  | unlabeled (bare : a.label = none) : Wrong earlier a ("unlabeled argument `" ++ a.source ++ "`")
  | unknown {text : String} (labeled : a.label = some text) (unknown : ∀ l, ¬ Label.Spells text l) :
      Wrong earlier a ("unknown argument `" ++ text ++ "`")
  | duplicate {l : Label} {b : Argument} (means : a.Means l) (mem : b ∈ earlier) (same : b.Means l) :
      Wrong earlier a ("duplicate `" ++ l.text ++ "` argument")

/-- The first argument that is wrong, with what is wrong with it. -/
inductive FirstWrong (as : List Argument) : String → Prop
  | intro {before after : List Argument} {a : Argument} {text : String} (split : as = before ++ a :: after)
      (right : ∀ front b back other, before = front ++ b :: back → ¬ b.Wrong front other)
      (wrong : a.Wrong before text) : FirstWrong as text

/-- The text for something: that of the argument that is for it, if there is one. -/
inductive Gives (as : List Argument) (l : Label) : Option String → Prop
  | absent (nowhere : ∀ a ∈ as, ¬ a.Means l) : Gives as l none
  | given {a : Argument} (mem : a ∈ as) (means : a.Means l) : Gives as l (some a.source)

variable {as before : List Argument} {a : Argument} {l : Label} {text : String}

theorem meaning?_eq_some_iff : a.meaning? = some l ↔ a.Means l := by
  simp only [meaning?, Option.bind_eq_some_iff, Label.ofText?_eq_some_iff, Means]

theorem ofMeaning?_eq_none_iff : ofMeaning? l as = none ↔ ∀ a ∈ as, ¬ a.Means l := by
  simp only [ofMeaning?, List.find?_eq_none, decide_eq_true_eq, meaning?_eq_some_iff]

/-- An argument that means something new goes well with distinct ones. -/
theorem Distinct.snoc (h : Distinct before) (means : a.Means l) (fresh : ∀ b ∈ before, ¬ b.Means l) :
    Distinct (before ++ [a]) where
  known b hb := by
    rcases List.mem_append.1 hb with hb | hb
    · exact h.known b hb
    · cases List.mem_singleton.1 hb
      exact ⟨l, meaning?_eq_some_iff.2 means⟩
  nodup := by
    rw [List.map_append, List.nodup_append]
    refine ⟨h.nodup, by simp, fun m hm n hn same => ?_⟩
    obtain ⟨b, hb, rfl⟩ := List.mem_map.1 hm
    rw [List.map_singleton, List.mem_singleton, meaning?_eq_some_iff.2 means] at hn
    exact fresh b hb (meaning?_eq_some_iff.1 (same.trans hn))

/-- The last of distinct arguments is not wrong. -/
theorem Distinct.not_wrong (h : Distinct (before ++ [a])) : ¬ a.Wrong before text := by
  obtain ⟨l, means⟩ := h.known a (by simp)
  obtain ⟨label, labeled, spells⟩ := meaning?_eq_some_iff.1 means
  rintro (bare | ⟨labeled', unknown⟩ | ⟨means', mem, same⟩)
  · simp [bare] at labeled
  · cases labeled.symm.trans labeled'
    exact unknown l spells
  · have fresh := h.fresh (meaning?_eq_some_iff.2 means')
    exact ofMeaning?_eq_none_iff.1 fresh _ mem same

/-- Behind distinct arguments there stands one that is distinct from them, or one that is wrong. -/
theorem Distinct.snoc_or_wrong (h : Distinct before) (a : Argument) :
    Distinct (before ++ [a]) ∨ ∃ text, a.Wrong before text := by
  cases labeled : a.label with
  | none => exact .inr ⟨_, .unlabeled labeled⟩
  | some label =>
    cases read : Label.ofText? label with
    | none =>
      refine .inr ⟨_, .unknown labeled fun l spells => ?_⟩
      simp [Label.ofText?_eq_some_iff.2 spells] at read
    | some l =>
      have means : a.Means l := ⟨label, labeled, Label.ofText?_eq_some_iff.1 read⟩
      by_cases taken : ∃ b ∈ before, b.Means l
      · obtain ⟨b, mem, same⟩ := taken
        exact .inr ⟨_, .duplicate means mem same⟩
      · exact .inl (h.snoc means fun b mem same => taken ⟨b, mem, same⟩)

/-- Arguments of which none is wrong behind the ones before it are distinct. -/
theorem distinct_of_right (right : ∀ front b back text, before = front ++ b :: back → ¬ b.Wrong front text) :
    Distinct before := by
  induction before using List.reverseRecOn with
  | nil => exact ⟨by simp, by simp⟩
  | append_singleton before a ih =>
    have distinct : Distinct before := by
      refine ih fun front b back text split => right front b (back ++ [a]) text ?_
      rw [split, List.append_assoc, List.cons_append]
    rcases distinct.snoc_or_wrong a with done | ⟨text, wrong⟩
    · exact done
    · exact absurd wrong (right before a [] text rfl)

/-- Nowhere among distinct arguments is there a wrong one. -/
theorem Distinct.right (h : Distinct before) {front back : List Argument} {b : Argument}
    (split : before = front ++ b :: back) : ¬ b.Wrong front text := by
  rw [split, ← List.singleton_append, ← List.append_assoc] at h
  exact h.left.not_wrong

/-- The invariant of a search from left to right: what has been passed is distinct. -/
theorem distinct_or_firstWrong_from (h : Distinct before) :
    Distinct (before ++ as) ∨ ∃ text, FirstWrong (before ++ as) text := by
  induction as generalizing before with
  | nil => exact .inl (by rwa [List.append_nil])
  | cons a as ih =>
    rcases h.snoc_or_wrong a with next | ⟨text, wrong⟩
    · simpa using ih next
    · exact .inr ⟨text, .intro rfl (fun _ _ _ _ => h.right) wrong⟩

/-- Arguments are distinct, or there is a first wrong one. -/
theorem distinct_or_firstWrong (as : List Argument) : Distinct as ∨ ∃ text, FirstWrong as text :=
  @distinct_or_firstWrong_from as [] ⟨by simp, by simp⟩

theorem distinct_of_not_firstWrong (h : ∀ text, ¬ FirstWrong as text) : Distinct as :=
  (distinct_or_firstWrong as).resolve_right fun ⟨text, first⟩ => h text first

/-- Distinct arguments have no wrong one. -/
theorem Distinct.not_firstWrong (h : Distinct as) : ¬ FirstWrong as text := by
  rintro ⟨split, -, wrong⟩
  exact h.right split wrong

/-- Among distinct arguments the one with a meaning gives its text. -/
theorem Distinct.gives_iff (h : Distinct as) {source : Option String} :
    Gives as l source ↔ (ofMeaning? l as).map (·.source) = source := by
  constructor
  · rintro (nowhere | ⟨mem, means⟩)
    · rw [ofMeaning?_eq_none_iff.2 nowhere]
      rfl
    · rw [(ofMeaning?_eq_some_iff h).2 ⟨mem, meaning?_eq_some_iff.2 means⟩]
      rfl
  · rintro rfl
    cases found : ofMeaning? l as with
    | none => exact .absent (ofMeaning?_eq_none_iff.1 found)
    | some a =>
      obtain ⟨mem, means⟩ := (ofMeaning?_eq_some_iff h).1 found
      exact .given mem (meaning?_eq_some_iff.1 means)

end Argument

namespace PropertySpec

open Argument

variable {as before : List Argument} {a : Argument} {text : String} {d : Declaration}

/-- Step: behind distinct arguments a wrong one is told of. -/
theorem Given.take_of_wrong (h : Distinct before) (wrong : a.Wrong before text) :
    ∃ f, (ofArguments before).take a = .error f ∧ f.extra = text := by
  cases wrong with
  | unlabeled bare =>
    refine ⟨.unlabeledArgument a.source, ?_, rfl⟩
    rw [take, bare]
  | @unknown label labeled unknown =>
    have unread : Label.ofText? label = none :=
      Option.eq_none_iff_forall_ne_some.2 fun l read => unknown l (Label.ofText?_eq_some_iff.1 read)
    refine ⟨.unknownArgument label, ?_, rfl⟩
    simp only [take, labeled, unread]
  | @duplicate l b means mem same =>
    obtain ⟨label, labeled, spells⟩ := means
    have read := Label.ofText?_eq_some_iff.2 spells
    have found : ofMeaning? l before = some b :=
      (ofMeaning?_eq_some_iff h).2 ⟨mem, meaning?_eq_some_iff.2 same⟩
    refine ⟨.duplicateArgument l, ?_, rfl⟩
    cases l <;> simp [take, labeled, read, ofArguments, found]

/-- Run: the arguments in front of the first wrong one are read, and those behind it are not looked at. -/
theorem Given.foldlM_of_firstWrong (first : FirstWrong as text) :
    ∃ f, as.foldlM Given.take {} = .error f ∧ f.extra = text := by
  obtain ⟨split, right, wrong⟩ := first
  have distinct := distinct_of_right right
  obtain ⟨f, stopped, told⟩ := take_of_wrong distinct wrong
  refine ⟨f, ?_, told⟩
  rw [split, List.foldlM_append, foldlM_take distinct]
  simp only [bind, Except.bind, List.foldlM_cons, stopped]

/-- Taking the arguments fails with the first wrong one. -/
theorem Given.firstWrong_of_foldlM {f : Fault} (h : as.foldlM Given.take {} = .error f) : FirstWrong as f.extra := by
  rcases distinct_or_firstWrong as with distinct | ⟨text, first⟩
  · cases h.symm.trans (foldlM_take distinct)
  · obtain ⟨g, stopped, rfl⟩ := foldlM_of_firstWrong first
    cases h.symm.trans stopped
    exact first

/-- When all arguments are taken they are distinct, and nothing is lost. -/
theorem Given.distinct_of_foldlM {given : Given} (h : as.foldlM Given.take {} = .ok given) :
    Distinct as ∧ given = ofArguments as := by
  rcases distinct_or_firstWrong as with distinct | ⟨text, first⟩
  · cases h.symm.trans (foldlM_take distinct)
    exact ⟨distinct, rfl⟩
  · obtain ⟨f, stopped, -⟩ := foldlM_of_firstWrong first
    cases h.symm.trans stopped

/-- The spec of a declaration, or what is wrong with it, in the default domain. -/
def parse (d : Declaration) : Except Diagnostic PropertySpec :=
  (ofDeclaration d).mapError fun fault => fault.diagnostic defaultDomain

/-- What becomes of a declaration. -/
inductive Verdict (d : Declaration) : Except Diagnostic PropertySpec → Prop
  | noList (absent : d.arguments = none) : Verdict d (.error (.syntaxError "missing argument list"))
  | noName {as : List Argument} (list : d.arguments = some as) (blank : Text.trim d.name = "") :
      Verdict d (.error (.syntaxError "property has no identifier"))
  | argument {as : List Argument} {text : String} (list : d.arguments = some as) (named : Text.trim d.name ≠ "")
      (first : FirstWrong as text) : Verdict d (.error (.syntaxError text))
  | noDefault {as : List Argument} (list : d.arguments = some as) (named : Text.trim d.name ≠ "")
      (right : ∀ text, ¬ FirstWrong as text) (absent : ∀ a ∈ as, ¬ a.Means .default) :
      Verdict d (.error (.syntaxError "missing `default_value` argument"))
  | spec {as : List Argument} {a : Argument} {key store : Option String} (list : d.arguments = some as)
      (named : Text.trim d.name ≠ "") (right : ∀ text, ¬ FirstWrong as text) (mem : a ∈ as) (means : a.Means .default)
      (givesKey : Gives as .key key) (givesStore : Gives as .store store) :
      Verdict d (.ok { name := Text.trim d.name, default := ⟨a.literal, a.source⟩, key, store })

/-- Some rule holds of what a declaration is read as. -/
theorem verdict_parse (d : Declaration) : Verdict d (parse d) := by
  have outcome := outcome_ofDeclaration d
  unfold parse
  generalize ofDeclaration d = result at outcome ⊢
  cases outcome with
  | missingArguments absent => exact .noList absent
  | missingName list blank => exact .noName list blank
  | @argument as f list named fault =>
    have verdict : Verdict d (.error (.syntaxError f.extra)) :=
      .argument list named (Given.firstWrong_of_foldlM fault)
    rwa [Diagnostic.syntaxError, ← Given.kind_of_foldlM fault] at verdict
  | missingDefault list named total absent =>
    obtain ⟨distinct, rfl⟩ := Given.distinct_of_foldlM total
    refine .noDefault list named (fun text => distinct.not_firstWrong) ?_
    simpa [Given.ofArguments, ofMeaning?_eq_none_iff] using absent
  | spec list named total present =>
    obtain ⟨distinct, rfl⟩ := Given.distinct_of_foldlM total
    obtain ⟨a, found, rfl⟩ := Option.map_eq_some_iff.1 present
    obtain ⟨mem, means⟩ := (ofMeaning?_eq_some_iff distinct).1 found
    exact .spec list named (fun text => distinct.not_firstWrong) mem (meaning?_eq_some_iff.1 means)
      (distinct.gives_iff.2 rfl) (distinct.gives_iff.2 rfl)

/-- The first wrong argument says one thing. -/
theorem text_unique {other : String} (first : FirstWrong as text) (first' : FirstWrong as other) : text = other := by
  obtain ⟨f, stopped, rfl⟩ := Given.foldlM_of_firstWrong first
  obtain ⟨g, stopped', rfl⟩ := Given.foldlM_of_firstWrong first'
  cases stopped.symm.trans stopped'
  rfl

/-- No two rules disagree. -/
theorem Verdict.unique {r r' : Except Diagnostic PropertySpec} (h : Verdict d r) (h' : Verdict d r') : r = r' := by
  have sameList {as bs : List Argument} (list : d.arguments = some as) (list' : d.arguments = some bs) : as = bs :=
    Option.some.inj (list.symm.trans list')
  cases h with
  | noList absent =>
    cases h' with
    | noList => rfl
    | noName list | argument list | noDefault list | spec list => simp [absent] at list
  | noName list blank =>
    cases h' with
    | noList absent => simp [list] at absent
    | noName => rfl
    | argument _ named | noDefault _ named | spec _ named => exact absurd blank named
  | argument list named first =>
    cases h' with
    | noList absent => simp [list] at absent
    | noName _ blank => exact absurd blank named
    | argument list' _ first' =>
      cases sameList list list'
      rw [text_unique first first']
    | noDefault list' _ right | spec list' _ right =>
      cases sameList list list'
      exact absurd first (right _)
  | noDefault list named right absent =>
    cases h' with
    | noList none => simp [list] at none
    | noName _ blank => exact absurd blank named
    | argument list' _ first =>
      cases sameList list list'
      exact absurd first (right _)
    | noDefault => rfl
    | spec list' _ _ mem means =>
      cases sameList list list'
      exact absurd means (absent _ mem)
  | @spec as a key store list named right mem means givesKey givesStore =>
    cases h' with
    | noList absent => simp [list] at absent
    | noName _ blank => exact absurd blank named
    | argument list' _ first =>
      cases sameList list list'
      exact absurd first (right _)
    | noDefault list' _ _ absent =>
      cases sameList list list'
      exact absurd means (absent _ mem)
    | @spec bs b _ _ list' _ _ mem' means' givesKey' givesStore' =>
      cases sameList list list'
      have distinct := distinct_of_not_firstWrong right
      have own : ofMeaning? .default as = some a :=
        (ofMeaning?_eq_some_iff distinct).2 ⟨mem, meaning?_eq_some_iff.2 means⟩
      have other : ofMeaning? .default as = some b :=
        (ofMeaning?_eq_some_iff distinct).2 ⟨mem', meaning?_eq_some_iff.2 means'⟩
      cases own.symm.trans other
      rw [← distinct.gives_iff.1 givesKey, ← distinct.gives_iff.1 givesStore, distinct.gives_iff.1 givesKey',
        distinct.gives_iff.1 givesStore']

/-- **What becomes of a declaration.** Without an argument list nothing else is looked at; then the name may be blank;
then the first argument that is wrong settles the matter, whatever is behind it; then the default may be missing. With
none of these there is a spec, made of the name without the white space around it and of the one argument for each
part. -/
theorem parse_eq_iff (d : Declaration) (r : Except Diagnostic PropertySpec) : parse d = r ↔ Verdict d r := by
  constructor
  · rintro rfl
    exact verdict_parse d
  · exact (verdict_parse d).unique

/-- The other spelling of the default comes second, and behind it there is an argument without a label. -/
example :
    parse ⟨"size", some [⟨some "defaultValue", .int 1, "1"⟩, ⟨some "default_value", .int 2, "2"⟩, ⟨none, .int 3, "3"⟩]⟩ =
      .error (.syntaxError "duplicate `default_value` argument") := rfl

end PropertySpec

end StoredProperty
