import StoredProperty.Log.Filter
import StoredProperty.Settings.App
import StoredProperty.Text.Json

/-!
# The settings program

The program reads and changes the application's settings, then expands their declarations, and logs all of it. It has
one argument, the user who signs in; its environment gives the filter and the format of the log.
-/

namespace StoredProperty.Program

open Log

structure Environment where
  filter : Option String
  format : Option String

def config (env : Environment) : Log.Config :=
  let c : Log.Config := { filter := env.filter }
  match env.format.bind Format.ofName? with
  | some format => c.withFormat format
  | none => c

def info (message : String) (fields : List (String × Field)) : Entry :=
  .record { level := .info, target := "settings", message, fields }

def started (c : Log.Config) : Entry :=
  .record
    { level := .debug, target := "example::logging", message := "tracing initialized"
      fields := [("level", .text c.level.name), ("format", .text c.format.name)] }

/-- The settings as fields. -/
def settings (s : Stores) : List (String × Field) :=
  [("enable_notification", .flag (App.enableNotification.get s).asBool),
   ("user_id", .text ((App.userId.get s).asText?.getD "")),
   ("delete_count", .number (App.deletions s).toInt)]

def actions (user : String) : List App.Action :=
  [.enableNotification true, .setUser user, .recordDelete, .recordDelete]

def reportText (r : Report) : String :=
  let d := r.diagnostic.record
  let extra := (d.extra.map Text.Json.string).getD "null"
  Text.Json.object
    [("site", Text.Json.string r.site),
     ("diagnostic", Text.Json.object
       [("kind", Text.Json.string d.kind.name), ("severity", Text.Json.string d.severity),
        ("domain", Text.Json.string d.domain), ("id", Text.Json.string d.id),
        ("message", Text.Json.string d.message), ("extra", extra)])]

def accessorEntry (p : ExpandedProperty) (a : Accessor) : Entry :=
  info ("\n" ++ (a.render defaultStandardStore).display)
    [("property", .text p.name), ("value_type", .text a.valueType.name)]

def reportEntry (r : Report) : Entry :=
  .record
    { level := .warn, target := "settings", message := "expansion failed"
      fields := [("record", .text (reportText r))] }

/-- Everything that happens, in order. -/
def entries (c : Log.Config) (user : String) : List Entry :=
  let expansionConfig : StoredProperty.Config := {}
  let expansion := expansionConfig.expandAll App.declarations
  let (after, events) := App.performAll App.fresh (actions user)
  [started c, info "defaults" (settings App.fresh)]
    ++ events.map (.record ·.record)
    ++ [info "updated" (settings after ++ [("signed_in", .flag (App.signedIn after))])]
    ++ (expansionConfig.expandAllEvents App.declarations).map (·.entry)
    ++ expansion.properties.filterMap (fun p => p.accessor.map (accessorEntry p))
    ++ expansion.reports.map reportEntry

/-- The lines of the log and the status that the program ends with. -/
structure Outcome where
  status : UInt32
  lines : List Line

/-- Without a filter nothing is done. -/
def run (env : Environment) (args : List String) : Outcome :=
  let c := config env
  match Filter.ofConfig? c with
  | some f => ⟨0, f.lines (entries c (args.head?.getD "guest"))⟩
  | none => ⟨101, []⟩

end StoredProperty.Program
