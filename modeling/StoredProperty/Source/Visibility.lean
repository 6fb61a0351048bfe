import StoredProperty.Source.Path

/-!
# Visibility

The word `pub` in front of an item or a field, perhaps limited to a place between parentheses. What is no place is left
to be read as something else.
-/

namespace StoredProperty.Source

open Reader

namespace Visibility

/-- The places that `pub` may be limited to. -/
def places : List String := ["crate", "self", "super"]

/-- A place alone in parentheses. -/
def place? (ts : List Tree) : Option (List Tree × List Tree) :=
  (Tokens.group? .parenthesis ts).bind fun (body, rest) =>
    match Tokens.ident? body with
    | some (i, []) => if !i.raw && i.name ∈ places then some ([.ident i], rest) else none
    | _ => none

def hasPath (ts : List Tree) : Bool := (Tokens.group? .parenthesis ts).any fun (body, _) => Tokens.hasWord "in" body

/-- The tokens of a visibility; an empty invisible group stands for none. -/
def read : Reader (List Tree) := do
  let nothing (ts : List Tree) : Option (Unit × List Tree) :=
    (Tokens.invisible? ts).bind fun (body, rest) => if body.isEmpty then some ((), rest) else none
  if (← option nothing).isSome then return []
  if !(← ifWord "pub") then return []
  if let some place ← option place? then return [.word "pub", Tree.paren place]
  if !(← peek hasPath) then return [.word "pub"]
  let path ← inside .parenthesis do
    word "in"
    Path.readPlain
  return [.word "pub", Tree.paren (.word "in" :: path.trees)]

end Visibility

end StoredProperty.Source
