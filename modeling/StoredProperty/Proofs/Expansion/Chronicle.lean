import Mathlib.Algebra.BigOperators.Group.List.Lemmas
import Mathlib.Algebra.Ring.Nat
import StoredProperty.Expansion

/-!
# The chronicle of a reporter

A reporter is written to in two ways, by reports and by declarations that are expanded into it, and is asked in between.
`Reporter.Records` says of one step what it answers and what it records, and `Reporter.Chronicle` of a run, by the
steps in their order. `Reporter.act_eq_iff` is the step and `Reporter.run_eq_iff` the run: a reporter holds what was
recorded, in the order of the steps, and nothing is ever lost. The diagnostics of a site are a part of this list, and
the parts of all sites make up the whole (`Reporter.sum_forSite`).
-/

namespace StoredProperty.Reporter

/-- What a reporter is asked. -/
inductive Query where
  | size
  | isEmpty
  | forSite (site : String)
  | reports

inductive Step where
  | report (site : String) (d : Diagnostic)
  /-- A declaration is expanded, and its failure reported. -/
  | expand (c : Config) (d : Declaration)
  | ask (q : Query)

inductive Answer where
  | done
  | accessor (a : Option Accessor)
  | size (n : Nat)
  | flag (b : Bool)
  | diagnostics (ds : List Diagnostic)
  | reports (rs : List Report)

def answer (r : Reporter) : Query → Answer
  | .size => .size r.size
  | .isEmpty => .flag r.isEmpty
  | .forSite site => .diagnostics (r.forSite site)
  | .reports => .reports r.reports

def act (r : Reporter) : Step → Answer × Reporter
  | .report site d => (.done, r.report site d)
  | .expand c d =>
    let (a, r) := c.expandInto d r
    (.accessor a, r)
  | .ask q => (r.answer q, r)

/-- The answers to the steps of a run, and the reporter behind it. -/
def run (r : Reporter) : List Step → List Answer × Reporter
  | [] => ([], r)
  | s :: steps =>
    let (x, r) := r.act s
    let (xs, r) := r.run steps
    (x :: xs, r)

/-- The reporter behind a run of a new one. -/
def after (steps : List Step) : Reporter := (run {} steps).2

/-! ## What is recorded -/

/-- The diagnostics that are recorded against exactly one site. -/
inductive Against (site : String) : List Report → List Diagnostic → Prop
  | nil : Against site [] []
  | here {rs : List Report} {ds : List Diagnostic} {d : Diagnostic} (rest : Against site rs ds) :
      Against site (⟨site, d⟩ :: rs) (d :: ds)
  | elsewhere {rs : List Report} {ds : List Diagnostic} {r : Report} (other : r.site ≠ site)
      (rest : Against site rs ds) : Against site (r :: rs) ds

/-- The answer to a query when a list of reports has been recorded. -/
inductive Answers (rs : List Report) : Query → Answer → Prop
  | size : Answers rs .size (.size rs.length)
  | isEmpty {b : Bool} (empty : b = true ↔ rs.length = 0) : Answers rs .isEmpty (.flag b)
  | forSite {site : String} {ds : List Diagnostic} (against : Against site rs ds) :
      Answers rs (.forSite site) (.diagnostics ds)
  | reports : Answers rs .reports (.reports rs)

/-- What a step answers, and what it records behind a list of reports. -/
inductive Records (rs : List Report) : Step → Answer → List Report → Prop
  | report {site : String} {d : Diagnostic} : Records rs (.report site d) .done [⟨site, d⟩]
  | expanded {c : Config} {d : Declaration} {a : Accessor} (built : c.expand d = .ok a) :
      Records rs (.expand c d) (.accessor (some a)) []
  | failed {c : Config} {d : Declaration} {e : Diagnostic} (failed : c.expand d = .error e) :
      Records rs (.expand c d) (.accessor none) [⟨d.name, e⟩]
  | asked {q : Query} {x : Answer} (answers : Answers rs q x) : Records rs (.ask q) x []

/-- A run that begins when a list of reports has been recorded: its answers, and all that is recorded in the end. -/
inductive Chronicle : List Report → List Step → List Answer → List Report → Prop
  | nil {rs : List Report} : Chronicle rs [] [] rs
  | step {rs new final : List Report} {s : Step} {x : Answer} {steps : List Step} {xs : List Answer}
      (records : Records rs s x new) (rest : Chronicle (rs ++ new) steps xs final) :
      Chronicle rs (s :: steps) (x :: xs) final

variable {r : Reporter} {rs new final : List Report} {site : String} {ds : List Diagnostic} {s : Step} {x : Answer}
  {steps : List Step} {xs : List Answer}

/-- The diagnostics against a site are a part of the list, in its order. -/
theorem against_iff : Against site rs ds ↔ ds = (rs.filter (·.site = site)).map (·.diagnostic) := by
  constructor
  · intro against
    induction against with
    | nil => rfl
    | here rest ih => simp [ih]
    | elsewhere other rest ih => simp [ih, other]
  · rintro rfl
    induction rs with
    | nil => exact .nil
    | cons r rs ih =>
      by_cases here : r.site = site
      · subst here
        simpa using Against.here (d := r.diagnostic) ih
      · simpa [here] using Against.elsewhere here ih

/-- A reporter answers from the list that it holds. -/
theorem answers_iff {q : Query} : Answers r.reports q x ↔ x = r.answer q := by
  constructor
  · rintro (_ | empty | against | _)
    · rfl
    · have same : _ = r.isEmpty := Bool.eq_iff_iff.2 (empty.trans (by simp [isEmpty]))
      rw [same]
      rfl
    · rw [against_iff.1 against]
      rfl
    · rfl
  · rintro rfl
    cases q with
    | size => exact .size
    | isEmpty => exact .isEmpty (by simp [isEmpty])
    | forSite site => exact .forSite (against_iff.2 rfl)
    | reports => exact .reports

theorem records_act (r : Reporter) (s : Step) :
    ∃ new, Records r.reports s (r.act s).1 new ∧ (r.act s).2 = ⟨r.reports ++ new⟩ := by
  cases s with
  | report site d => exact ⟨_, .report, rfl⟩
  | expand c d =>
    simp only [act, Config.expandInto]
    cases outcome : c.expand d with
    | ok a => exact ⟨[], .expanded outcome, by simp⟩
    | error e => exact ⟨_, .failed outcome, rfl⟩
  | ask q => exact ⟨[], .asked (answers_iff.2 rfl), by simp [act]⟩

theorem Records.act_eq (h : Records r.reports s x new) : r.act s = (x, ⟨r.reports ++ new⟩) := by
  cases h with
  | report => rfl
  | expanded built => simp [act, Config.expandInto, built]
  | failed failed =>
    simp only [act, Config.expandInto, failed]
    rfl
  | asked answers =>
    rw [answers_iff.1 answers]
    simp [act]

/-- **Step.** A reporter answers as the rules say, and what they say is recorded is put behind what it held. -/
theorem act_eq_iff : r.act s = (x, ⟨r.reports ++ new⟩) ↔ Records r.reports s x new := by
  constructor
  · intro acts
    obtain ⟨new', records, next⟩ := records_act r s
    rw [acts] at records next
    cases List.append_cancel_left (Reporter.mk.inj next)
    exact records
  · exact Records.act_eq

/-- **Run.** The answers and the reports of a run are those of its chronicle. -/
theorem run_eq_iff : r.run steps = (xs, ⟨final⟩) ↔ Chronicle r.reports steps xs final := by
  induction steps generalizing r xs with
  | nil =>
    constructor
    · intro ends
      cases ends
      exact .nil
    · intro chronicle
      cases chronicle
      rfl
  | cons s steps ih =>
    constructor
    · intro ends
      obtain ⟨new, -, next⟩ := records_act r s
      have acts : r.act s = ((r.act s).1, ⟨r.reports ++ new⟩) := by rw [← next]
      rw [run, acts] at ends
      obtain ⟨answers, ends⟩ := Prod.mk.inj ends
      rw [← answers]
      exact .step (act_eq_iff.1 acts) (ih.1 (Prod.ext rfl ends))
    · intro chronicle
      obtain _ | ⟨records, later⟩ := chronicle
      rw [run, act_eq_iff.2 records]
      simp only [ih.2 later]

/-- What has been recorded stays in front. -/
theorem Chronicle.isPrefix (h : Chronicle rs steps xs final) : rs <+: final := by
  induction h with
  | nil => exact List.prefix_refl _
  | step records rest ih => exact (List.prefix_append _ _).trans ih

theorem run_append (first later : List Step) : (r.run (first ++ later)).2 = ((r.run first).2.run later).2 := by
  induction first generalizing r with
  | nil => rfl
  | cons s first ih => exact ih

/-! ## Sites -/

/-- A site has as many diagnostics as it occurs in the list. -/
theorem length_forSite (r : Reporter) (site : String) :
    (r.forSite site).length = (r.reports.map (·.site)).count site := by
  rw [forSite, List.length_map, ← List.countP_eq_length_filter, List.count, List.countP_map]
  exact List.countP_congr fun report _ => by simp

/-- Every report is recorded against one of the sites, and only once. -/
theorem sum_forSite (r : Reporter) :
    ((r.reports.map (·.site)).dedup.map fun site => (r.forSite site).length).sum = r.size := by
  simp only [length_forSite, List.sum_map_count_dedup_eq_length, List.length_map, size]

/-- **The chronicle of a reporter.** Wherever a run stands, it has answered and recorded what its steps say, in their
order. What has been recorded stays, in front of all that comes later. Expanding a declaration gives no accessor
exactly when it makes one report more, of the error under the declared name, and else it gives the declaration's
accessor and leaves everything alone. Asking leaves everything alone. And the diagnostics of all sites, each counted
once, are as many as the reports. -/
theorem run_chronological (steps : List Step) :
    Chronicle [] steps (run {} steps).1 (after steps).reports ∧
    (∀ later, (after steps).reports <+: (after (steps ++ later)).reports) ∧
    -- one more step
    (∀ site d, (after (steps ++ [.report site d])).reports = (after steps).reports ++ [⟨site, d⟩]) ∧
    (∀ (c : Config) d,
      (((after steps).act (.expand c d)).1 = .accessor none ↔
        (after (steps ++ [.expand c d])).size = (after steps).size + 1) ∧
      (∀ e, c.expand d = .error e →
        (after (steps ++ [.expand c d])).reports = (after steps).reports ++ [⟨d.name, e⟩]) ∧
      (∀ a, c.expand d = .ok a → ((after steps).act (.expand c d)).1 = .accessor (some a) ∧
        after (steps ++ [.expand c d]) = after steps)) ∧
    (∀ q, Answers (after steps).reports q ((after steps).answer q) ∧ after (steps ++ [.ask q]) = after steps) ∧
    -- the parts of the sites
    (((after steps).reports.map (·.site)).dedup.map fun site => ((after steps).forSite site).length).sum =
      (after steps).size := by
  have one (s : Step) : after (steps ++ [s]) = ((after steps).act s).2 := run_append steps [s]
  refine ⟨run_eq_iff.1 rfl, fun later => ?_, fun site d => ?_, fun c d => ⟨?_, ?_, ?_⟩, fun q => ⟨?_, one _⟩, sum_forSite _⟩
  · have behind : after (steps ++ later) = ((after steps).run later).2 := run_append steps later
    have chronicle : Chronicle (after steps).reports later _ ((after steps).run later).2.reports := run_eq_iff.1 rfl
    rw [behind]
    exact chronicle.isPrefix
  · rw [one]
    rfl
  · rw [one]
    cases outcome : c.expand d with
    | ok a => simp [act, Config.expandInto, outcome]
    | error e => simp [act, Config.expandInto, outcome]
  · intro e failed
    rw [one, act_eq_iff.2 (.failed failed)]
  · intro a built
    rw [one, act_eq_iff.2 (.expanded built)]
    simp
  · exact answers_iff.2 rfl

end StoredProperty.Reporter
