import StoredProperty.Log.Record
import StoredProperty.Text.Alphanumeric
import StoredProperty.Text.Blank
import StoredProperty.Text.Decimal
import StoredProperty.Text.Place

/-!
# Directives of a filter

A directive gives a level to the records of a target: `level`, `target` or `target=level`. It may be about spans, by
their name, by a field they have or by its value, and is then written `target[name{field=value}]=level`; every part of
it can be left out. The parts are found in the text without the blanks around it, and taken from the same places of
the text with them: a directive with blanks in front is read, but its parts are not the ones that are meant.
-/

namespace StoredProperty.Log

/-- What the value of a field has to be. Only numbers are told from each other. -/
inductive FieldValue where
  | number (n : Nat)
  | other (text : String)
  deriving DecidableEq

structure FieldCondition where
  name : String
  value : Option FieldValue
  deriving DecidableEq

structure Directive where
  /-- The text that the target begins with. -/
  target : Option String
  /-- The name of the span. -/
  span : Option String
  field : Option FieldCondition
  /-- No level at all turns the target off. -/
  level : Option Level
  deriving DecidableEq

/-- Why a text cannot be read as a directive. -/
inductive DirectiveError where
  | malformed
  /-- A part of the directive would begin or end within a character. -/
  | splitCharacter
  deriving DecidableEq

/-- The level of a number or of a name in any case; zero and `off` are no level. -/
def Level.ofText? (cs : List Char) : Option (Option Level) :=
  match Text.unsigned? cs with
  | some 0 => some none
  | some n => (Level.all.find? (·.verbosity = n)).map some
  | none =>
    let word := cs.map Char.toLower
    if word = "off".toList then some none
    else (Level.all.find? fun l => word = l.name.toList.map Char.toLower).map some

namespace FieldCondition

/-- The value, behind an equals sign, ends where another one stands. -/
def ofText (cs : List Char) : FieldCondition :=
  match cs.splitOn '=' with
  | name :: value :: _ => ⟨String.ofList name, some (readValue value)⟩
  | _ => ⟨String.ofList cs, none⟩
where
  readValue (cs : List Char) : FieldValue :=
    ((Text.unsigned? cs).map FieldValue.number).getD (.other (String.ofList cs))

def meets (c : FieldCondition) (fields : List (String × Field)) : Bool :=
  match c.value with
  | none => true
  | some value => fields.any fun (name, field) =>
      name = c.name && match field, value with
        | .number n, .number m => n = (m : Int)
        | _, _ => false

end FieldCondition

namespace Directive

def begins (c : Char) : Bool := c = '-' || c = ':' || c = '_' || Text.isAlphanumeric c

/-- The part of a text between two places. -/
def part (text : List Char) (start stop : Nat) : Except DirectiveError (List Char) :=
  (Text.between? start stop text).elim (.error .splitCharacter) .ok

def levelFrom (text : List Char) (start : Nat) : Except DirectiveError (Option Level) := do
  match Text.after? start text with
  | none => throw .splitCharacter
  | some [] => return some .trace
  | some level => (Level.ofText? level).elim (.error .malformed) .ok

/-- The level behind the brackets, if there is one. -/
def readEnd (text : List Char) (place : Nat) (rest : List Char) : Except DirectiveError (Option Level) :=
  match rest with
  | [] => .ok (some .trace)
  | '=' :: _ => levelFrom text (place + 1)
  | _ => .error .malformed

/-- What stands in the brackets and behind them. -/
def readSpan (text : List Char) (target : Option String) (place : Nat) (rest : List Char) :
    Except DirectiveError Directive := do
  match Text.find? (fun c => c = ']' || c = '\x7b') place rest with
  | none => throw .malformed
  | some (stop, ']', rest) =>
    let span ← part text place stop
    return ⟨target, some (String.ofList span), none, ← readEnd text (stop + 1) rest⟩
  | some (stop, _, rest) =>
    let span ← part text place stop
    let start := stop + 1
    match Text.find? (· = '\x7d') start rest with
    | some (stop, _, rest) =>
      let field ← part text start stop
      match field, rest with
      | _ :: _, ']' :: rest =>
        let span := if span.isEmpty then none else some (String.ofList span)
        return ⟨target, span, some (.ofText field), ← readEnd text (stop + 2) rest⟩
      | _, _ => throw .malformed
    | none => throw .malformed

/-- A level that is left out is the most verbose one. -/
def read (text : List Char) : Except DirectiveError Directive := do
  match Text.trimChars text with
  | [] => throw .malformed
  | '[' :: rest => readSpan text none 1 rest
  | c :: rest =>
    if !begins c then throw .malformed
    match Text.find? (fun c => c = '=' || c = '[') 0 (c :: rest) with
    | some (stop, '=', _) =>
      let target ← part text 0 stop
      return ⟨some (String.ofList target), none, none, ← levelFrom text (stop + 1)⟩
    | some (stop, _, rest) =>
      let target ← part text 0 stop
      readSpan text (some (String.ofList target)) (stop + 1) rest
    | none =>
      match Level.ofText? text with
      | some level => return ⟨none, none, none, level⟩
      | none => return ⟨some (String.ofList text), none, none, some .trace⟩

end Directive

end StoredProperty.Log
