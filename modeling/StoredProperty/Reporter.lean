import StoredProperty.Diagnostic

/-!
# Reports

Diagnostics are recorded against the site that raised them, in the order of the reports. Nothing is ever taken out.
-/

namespace StoredProperty

structure Report where
  site : String
  diagnostic : Diagnostic
  deriving DecidableEq

structure Reporter where
  reports : List Report := []
  deriving DecidableEq

namespace Reporter

def report (r : Reporter) (site : String) (d : Diagnostic) : Reporter := ⟨r.reports ++ [⟨site, d⟩]⟩

def forSite (r : Reporter) (site : String) : List Diagnostic :=
  (r.reports.filter (·.site = site)).map (·.diagnostic)

def size (r : Reporter) : Nat := r.reports.length

def isEmpty (r : Reporter) : Bool := r.reports.isEmpty

@[simp] theorem reports_report (r : Reporter) (site : String) (d : Diagnostic) :
    (r.report site d).reports = r.reports ++ [⟨site, d⟩] := rfl

@[simp] theorem size_report (r : Reporter) (site : String) (d : Diagnostic) :
    (r.report site d).size = r.size + 1 := by simp [size]

end Reporter

end StoredProperty
