import StoredProperty.Log.Record
import StoredProperty.Text.Blank
import StoredProperty.Text.Quoted

/-!
# Configuration of the log

The level, the output format, a filter text and whether spans are told of when they are entered and left. `describe`
shows all of it.
-/

namespace StoredProperty.Log

inductive Format where
  | pretty | compact | json
  deriving DecidableEq

namespace Format

def name : Format → String
  | pretty => "Pretty"
  | compact => "Compact"
  | json => "Json"

/-- A format's name in any case, with white space around it. -/
def ofName? (name : String) : Option Format :=
  let word := (Text.trimChars name.toList).map Char.toLower
  if word = "pretty".toList then some pretty
  else if word = "compact".toList then some compact
  else if word = "json".toList then some json
  else none

end Format

structure Config where
  level : Level := .info
  format : Format := .pretty
  filter : Option String := none
  spanEvents : Bool := false
  deriving DecidableEq

namespace Config

def withLevel (c : Config) (level : Level) : Config := { c with level }

def withFormat (c : Config) (format : Format) : Config := { c with format }

def withFilter (c : Config) (filter : String) : Config := { c with filter := some filter }

def withSpanEvents (c : Config) (spanEvents : Bool) : Config := { c with spanEvents }

def describe (c : Config) : String :=
  let filter := match c.filter with
    | none => "None"
    | some filter => "Some(" ++ Text.quoted filter ++ ")"
  "TracingConfig \x7b level: Level(" ++ c.level.title ++ "), format: " ++ c.format.name ++ ", env_filter: " ++ filter
    ++ ", span_events: " ++ toString c.spanEvents ++ " \x7d"

end Config

end StoredProperty.Log
