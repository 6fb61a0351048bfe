import StoredProperty.Expansion
import StoredProperty.Store.Operation

/-!
# Log records

A record has a level, the target that wrote it, a message and fields. Events of stores and of expansions are written
as records; an expansion of a list is also a span, in which the records of its declarations lie.
-/

namespace StoredProperty.Log

inductive Level where
  | error | warn | info | debug | trace
  deriving DecidableEq

namespace Level

def all : List Level := [error, warn, info, debug, trace]

def name : Level → String
  | error => "ERROR"
  | warn => "WARN"
  | info => "INFO"
  | debug => "DEBUG"
  | trace => "TRACE"

def title : Level → String
  | error => "Error"
  | warn => "Warn"
  | info => "Info"
  | debug => "Debug"
  | trace => "Trace"

/-- How much is written at a level: everything that the levels before it write, and more. -/
def verbosity : Level → Nat
  | error => 1
  | warn => 2
  | info => 3
  | debug => 4
  | trace => 5

end Level

inductive Field where
  | text (s : String)
  | flag (b : Bool)
  | number (n : Int)
  deriving DecidableEq

structure Record where
  level : Level
  target : String
  message : String
  fields : List (String × Field)
  deriving DecidableEq

structure Span where
  level : Level
  target : String
  name : String
  fields : List (String × Field)
  deriving DecidableEq

inductive Entry where
  | record (r : Record)
  | opened (s : Span)
  | entered
  | exited
  deriving DecidableEq

/-- A field that is there only when its text is. -/
def optionalText (name : String) (s : Option String) : List (String × Field) :=
  s.toList.map fun s => (name, .text s)

end Log

open Log

def StoreEvent.record (e : StoreEvent) : Record :=
  let (message, fields) := match e.change with
    | .set key kind => ("set", [("key", Field.text key), ("kind", .text kind.name)])
    | .removed key found => ("remove", [("key", .text key), ("found", .flag found)])
    | .cleared => ("cleared", [])
  { level := .trace, target := "stowage_store::memory", message, fields := optionalText "store" e.store ++ fields }

namespace ExpansionEvent

def target : String := "stowage_engine::expand"

def span (count : Nat) : Span :=
  { level := .debug, target, name := "expand_all", fields := [("properties", .number count)] }

def entry : ExpansionEvent → Entry
  | opened count => .opened (span count)
  | entered => .entered
  | exited => .exited
  | resolved property valueType key store => .record
      { level := .debug, target, message := "resolved property"
        fields := [("property", .text property), ("value_type", .text valueType.name), ("key", .text key),
          ("store", .text store.display)] }
  | failed site d => .record
      { level := .warn, target := "stowage_engine::diagnostic", message := "expansion failed: " ++ d.display
        fields := [("site", .text site), ("id", .text d.id)] }
  | finished count => .record
      { level := .debug, target, message := "expansion finished", fields := [("failed", .number count)] }

end ExpansionEvent

end StoredProperty
