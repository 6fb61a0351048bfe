import StoredProperty.Log.Filter
import StoredProperty.Text.Json

/-!
# Output of the log

A line is written as a JSON object, or as plain text on one line where the format is for people. The lines carry no
time.
-/

namespace StoredProperty.Log

open Text (Json.string Json.object Json.array)

namespace Field

def json : Field → String
  | text s => Json.string s
  | flag b => toString b
  | number n => toString n

def plain : Field → String
  | text s => s
  | flag b => toString b
  | number n => toString n

end Field

def fieldsJson (fields : List (String × Field)) : List (String × String) := fields.map fun (name, f) => (name, f.json)

def Span.json (s : Span) : String := Json.object (("name", Json.string s.name) :: fieldsJson s.fields)

namespace Line

/-- The innermost span stands alone, and all of them stand in a list. -/
def json (l : Line) : String :=
  let spans := l.spans.map Span.json
  let here := match spans.getLast? with
    | some s => [("span", s), ("spans", Json.array spans)]
    | none => []
  Json.object
    ([("level", Json.string l.record.level.name),
      ("fields", Json.object (("message", Json.string l.record.message) :: fieldsJson l.record.fields)),
      ("target", Json.string l.record.target)] ++ here)

def plain (l : Line) : String :=
  let fields := l.record.fields.map fun (name, f) => " " ++ name ++ "=" ++ f.plain
  l.record.level.name ++ " " ++ l.record.target ++ ": " ++ l.record.message ++ String.join fields

def output (l : Line) : Format → String
  | .json => l.json
  | .pretty | .compact => l.plain

end Line

end StoredProperty.Log
