import StoredProperty.Accessor
import StoredProperty.Reporter

/-!
# Expansion

A configuration has the domain that diagnostics carry, and the text that names the standard store in rendered accessors.
Expanding a declaration gives its accessor or a diagnostic in the configuration's domain. A list of declarations is
expanded one by one: a declaration that fails leaves an entry without an accessor and a report, and does not touch the
others. Everything that happens on the way is told by events, in order.
-/

namespace StoredProperty

def defaultStandardStore : String := "stowage_store::standard()"

structure Config where
  domain : String := defaultDomain
  standardStore : String := defaultStandardStore
  deriving DecidableEq

namespace Config

def withDomain (c : Config) (domain : String) : Config := { c with domain }

def withStandardStore (c : Config) (standardStore : String) : Config := { c with standardStore }

end Config

inductive ExpansionEvent where
  /-- A list with so many declarations is begun. -/
  | opened (count : Nat)
  | entered
  | resolved (property : String) (valueType : ValueType) (key : String) (store : StoreRef)
  | failed (site : String) (d : Diagnostic)
  | finished (failed : Nat)
  | exited
  deriving DecidableEq

/-- What a report tells when it is made. -/
def Report.event (r : Report) : ExpansionEvent := .failed r.site r.diagnostic

structure ExpandedProperty where
  name : String
  accessor : Option Accessor
  deriving DecidableEq

@[ext]
structure Expansion where
  properties : List ExpandedProperty
  reports : List Report
  deriving DecidableEq

namespace Expansion

def isClean (e : Expansion) : Bool := e.reports.isEmpty

/-- The accessor of the first property with the name. -/
def accessor? (e : Expansion) (name : String) : Option Accessor :=
  (e.properties.find? (·.name = name)).bind (·.accessor)

end Expansion

namespace Config

/-- A diagnostic in the configuration's domain: it is moved there, unless that is where it was raised. -/
def moved (c : Config) (d : Diagnostic) : Diagnostic := if d.domain = c.domain then d else d.withDomain c.domain

/-- A fault is raised as a diagnostic in the default domain, and moved from there. -/
def stamp {α : Type} (c : Config) (result : Except Fault α) : Except Diagnostic α :=
  result.mapError fun fault => c.moved (fault.diagnostic defaultDomain)

theorem moved_eq (c : Config) (d : Diagnostic) : c.moved d = d.withDomain c.domain := by
  unfold moved
  split
  · next there => rw [← there]; rfl
  · rfl

@[simp] theorem stamp_ok {α : Type} (c : Config) (a : α) : c.stamp (.ok a) = .ok a := rfl

@[simp] theorem stamp_error {α : Type} (c : Config) (f : Fault) :
    c.stamp (.error f : Except Fault α) = .error (f.diagnostic c.domain) := congrArg Except.error (c.moved_eq _)

def expandSpec (c : Config) (s : PropertySpec) : Except Diagnostic Accessor := c.stamp s.accessor

def expand (c : Config) (d : Declaration) : Except Diagnostic Accessor := do
  c.expandSpec (← c.stamp (PropertySpec.ofDeclaration d))

/-- The two stages of a spec are stamped one by one. -/
theorem expandSpec_eq (c : Config) (s : PropertySpec) :
    c.expandSpec s = c.stamp s.resolve >>= fun p => c.stamp p.accessor := by
  unfold expandSpec PropertySpec.accessor
  cases s.resolve <;> rfl

theorem expand_eq (c : Config) (d : Declaration) : c.expand d = c.stamp d.accessor := by
  unfold expand Declaration.accessor
  cases PropertySpec.ofDeclaration d <;> rfl

end Config

/-- A spec is resolved when its default has a type. -/
def PropertySpec.events (s : PropertySpec) : List ExpansionEvent :=
  match s.resolve with
  | .ok p => [.resolved s.name p.valueType p.key p.store]
  | .error _ => []

def Declaration.events (d : Declaration) : List ExpansionEvent :=
  match PropertySpec.ofDeclaration d with
  | .ok s => s.events
  | .error _ => []

namespace Config

/-- Expands a declaration, and reports a failure instead of returning it. -/
def expandInto (c : Config) (d : Declaration) (r : Reporter) : Option Accessor × Reporter :=
  match c.expand d with
  | .ok a => (some a, r)
  | .error e => (none, r.report d.name e)

/-- The events of `expandInto`. -/
def reportedEvents (c : Config) (d : Declaration) : List ExpansionEvent :=
  match c.expand d with
  | .ok _ => d.events
  | .error e => d.events ++ [Report.event ⟨d.name, e⟩]

/-- The properties of a list of declarations, with a reporter going through. -/
def expandEach (c : Config) : List Declaration → Reporter → List ExpandedProperty × Reporter
  | [], r => ([], r)
  | d :: ds, r =>
    let (a, r) := c.expandInto d r
    let (ps, r) := c.expandEach ds r
    (⟨d.name, a⟩ :: ps, r)

def expandAll (c : Config) (ds : List Declaration) : Expansion :=
  let (properties, r) := c.expandEach ds {}
  { properties, reports := r.reports }

/-- The events of `expandAll`. -/
def expandAllEvents (c : Config) (ds : List Declaration) : List ExpansionEvent :=
  [.opened ds.length, .entered] ++ ds.flatMap c.reportedEvents
    ++ [.finished (c.expandAll ds).reports.length, .exited]

end Config

end StoredProperty
