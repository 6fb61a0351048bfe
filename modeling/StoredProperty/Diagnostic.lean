/-!
# Diagnostics

A diagnostic says that a property cannot be expanded. Its kind fixes its message; the domain of whoever reports it and
the kind make its identifier; the extra text tells what was wrong. Identifier and message are computed, so that they
cannot disagree with the kind and the domain. In a `DiagnosticRecord` they are written out beside these, and whoever
changes the record writes anew what hangs on the change.
-/

namespace StoredProperty

inductive DiagnosticKind where
  | syntaxError | unsupportedType
  deriving DecidableEq

namespace DiagnosticKind

def name : DiagnosticKind → String
  | syntaxError => "syntax_parse_error"
  | unsupportedType => "unsupported_type"

def message : DiagnosticKind → String
  | syntaxError => "can't parse this syntax"
  | unsupportedType => "unsupported type, supported types are: String, Int, Bool, Float"

end DiagnosticKind

def defaultDomain : String := "com.stowage.macros"

structure Diagnostic where
  kind : DiagnosticKind
  domain : String
  extra : Option String
  deriving DecidableEq

namespace Diagnostic

def ofKind (kind : DiagnosticKind) : Diagnostic := ⟨kind, defaultDomain, none⟩

def syntaxError (extra : String) : Diagnostic := ⟨.syntaxError, defaultDomain, some extra⟩

def unsupportedType (extra : String) : Diagnostic := ⟨.unsupportedType, defaultDomain, some extra⟩

def withExtra (d : Diagnostic) (extra : String) : Diagnostic := { d with extra := some extra }

def withDomain (d : Diagnostic) (domain : String) : Diagnostic := { d with domain }

def id (d : Diagnostic) : String := d.domain ++ "." ++ d.kind.name

/-- Every diagnostic is an error. -/
def severity (_ : Diagnostic) : String := "error"

/-- The message, with the extra text in parentheses unless it is empty. -/
def display (d : Diagnostic) : String :=
  match d.extra with
  | none => d.kind.message
  | some extra => if extra.isEmpty then d.kind.message else d.kind.message ++ " (" ++ extra ++ ")"

@[simp] theorem withDomain_withDomain (d : Diagnostic) (a b : String) :
    (d.withDomain a).withDomain b = d.withDomain b := rfl

@[simp] theorem display_withDomain (d : Diagnostic) (domain : String) :
    (d.withDomain domain).display = d.display := rfl

end Diagnostic

/-- A diagnostic as it is written out. -/
@[ext]
structure DiagnosticRecord where
  kind : DiagnosticKind
  severity : String
  domain : String
  id : String
  message : String
  extra : Option String
  deriving DecidableEq

namespace DiagnosticRecord

def withExtra (r : DiagnosticRecord) (extra : String) : DiagnosticRecord := { r with extra := some extra }

/-- The identifier changes with the domain. -/
def withDomain (r : DiagnosticRecord) (domain : String) : DiagnosticRecord :=
  { r with domain, id := domain ++ "." ++ r.kind.name }

def ofKind (kind : DiagnosticKind) : DiagnosticRecord where
  kind
  severity := "error"
  domain := defaultDomain
  id := defaultDomain ++ "." ++ kind.name
  message := kind.message
  extra := none

def syntaxError (extra : String) : DiagnosticRecord := (ofKind .syntaxError).withExtra extra

def unsupportedType (extra : String) : DiagnosticRecord := (ofKind .unsupportedType).withExtra extra

/-- The message as it is written in the record, with the extra text in parentheses unless it is empty. -/
def display (r : DiagnosticRecord) : String :=
  match r.extra with
  | none => r.message
  | some extra => if extra.isEmpty then r.message else r.message ++ " (" ++ extra ++ ")"

end DiagnosticRecord

def Diagnostic.record (d : Diagnostic) : DiagnosticRecord where
  kind := d.kind
  severity := d.severity
  domain := d.domain
  id := d.id
  message := d.kind.message
  extra := d.extra

namespace Diagnostic

/-! A record is changed as its diagnostic is. -/

@[simp] theorem record_ofKind (kind : DiagnosticKind) : (ofKind kind).record = .ofKind kind := rfl

@[simp] theorem record_syntaxError (extra : String) : (syntaxError extra).record = .syntaxError extra := rfl

@[simp] theorem record_unsupportedType (extra : String) : (unsupportedType extra).record = .unsupportedType extra := rfl

@[simp] theorem record_withExtra (d : Diagnostic) (extra : String) :
    (d.withExtra extra).record = d.record.withExtra extra := rfl

@[simp] theorem record_withDomain (d : Diagnostic) (domain : String) :
    (d.withDomain domain).record = d.record.withDomain domain := rfl

end Diagnostic

end StoredProperty
