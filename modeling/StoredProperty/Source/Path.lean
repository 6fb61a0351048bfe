import StoredProperty.Source.Reader

/-!
# Paths

A path is a list of names with `::` between them, each perhaps with generic arguments. In an expression the arguments
need another `::` in front, or they would be a comparison. The arguments are kept as the tokens they are written with.
A path may also begin with a type between angle brackets, of which it names a member.
-/

namespace StoredProperty.Source

structure Segment where
  name : Ident
  /-- The arguments between angle brackets, with the `::` in front if there is one; nothing if there are none. -/
  arguments : List Tree := []

structure Path where
  leading : Bool
  segments : List Segment

namespace Segment

def trees (s : Segment) : List Tree := .ident s.name :: s.arguments

/-- There are no arguments, though perhaps brackets for them. -/
def hasNoArguments (s : Segment) : Bool :=
  match s.arguments with
  | [] => true
  | [.punct '<' _, .punct '>' _] => true
  | [.punct ':' _, .punct ':' _, .punct '<' _, .punct '>' _] => true
  | _ => false

end Segment

namespace Path

def separator : List Tree := Tree.op "::"

def ofName (name : Ident) : Path := ⟨false, [⟨name, []⟩]⟩

def trees (p : Path) : List Tree :=
  (if p.leading then separator else []) ++ separator.intercalate (p.segments.map Segment.trees)

/-- The name, if the path is nothing else. -/
def name? (p : Path) : Option Ident :=
  match p.leading, p.segments with
  | false, [⟨name, []⟩] => some name
  | _, _ => none

/-- No segment has arguments. -/
def isPlain (p : Path) : Bool := p.segments.all (·.arguments.isEmpty)

def ofSegments (leading : Bool) (segments : List Segment) : Path := ⟨leading, segments⟩

def append (p : Path) (segments : List Segment) : Path := { p with segments := p.segments ++ segments }

/-- Gives the last segment arguments. -/
def withArguments (p : Path) (arguments : List Tree) : Path :=
  match p.segments.getLast? with
  | some s => { p with segments := p.segments.dropLast ++ [{ s with arguments }] }
  | none => p

/-- The last segment has no arguments, nor brackets for them. -/
def endsPlain (p : Path) : Bool := p.segments.getLast?.any (·.arguments.isEmpty)

def endsWithoutArguments (p : Path) : Bool := p.segments.getLast?.any Segment.hasNoArguments

/-! ## Reading -/

/-- The keywords that name a place. -/
def places : List String := ["super", "self", "crate", "try"]

/-- Generic arguments behind `::`. -/
def hasTurbofish (ts : List Tree) : Bool := (Tokens.op? "::" ts).any (Tokens.hasOp "<")

/-- An angle bracket, and no comparison or shift that assigns. -/
def hasBracket (ts : List Tree) : Bool := Tokens.hasOp "<" ts && !Tokens.hasOp "<=" ts && !Tokens.hasOp "<<=" ts

def hasArguments (inExpression : Bool) (ts : List Tree) : Bool := (!inExpression && hasBracket ts) || hasTurbofish ts

/-- Generic arguments with the `::` in front of them, where `arguments` reads them from `<` on. -/
def turbofish (arguments : Reader (List Tree)) : Reader (List Tree) := do
  let colons ← Reader.ifOp "::"
  return (if colons then separator else []) ++ (← arguments)

def segmentName : Reader Ident := do
  if ← Reader.peek (Tokens.hasWord "Self") then Reader.anyWord else Reader.name

def segment (inExpression : Bool) (arguments : Reader (List Tree)) : Reader Segment := do
  if ← Reader.peek (Tokens.hasAnyWord places) then return ⟨← Reader.anyWord, []⟩
  let name ← segmentName
  if ← Reader.peek (hasArguments inExpression) then return ⟨name, ← turbofish arguments⟩
  return ⟨name, []⟩

/-- A path goes on behind `::`, but not with a parenthesis. -/
def continues (ts : List Tree) : Bool := (Tokens.op? "::" ts).any (!Tokens.hasGroup .parenthesis ·)

/-- The segments behind `::` as long as `goesOn` holds. -/
def segmentsWhile (goesOn : List Tree → Bool) (segment : Reader Segment) : Reader (List Segment) :=
  Reader.manyWhile goesOn do
    Reader.op "::"
    segment

/-- The segments that follow a path. -/
def more (inExpression : Bool) (arguments : Reader (List Tree)) : Reader (List Segment) :=
  segmentsWhile continues (segment inExpression arguments)

def read (inExpression : Bool) (arguments : Reader (List Tree)) : Reader Path := do
  let leading ← Reader.ifOp "::"
  let first ← segment inExpression arguments
  return ofSegments leading (first :: (← more inExpression arguments))

/-! ## Paths of names alone -/

def startsPlain (ts : List Tree) : Bool := Tokens.hasName ts || Tokens.hasAnyWord ["super", "self", "Self", "crate"] ts

/-- The segments of a path of names from the front on, with `leading` colons. -/
def plainSegments? (leading : Bool) : Nat → List Tree → Option (Path × List Tree)
  | 0, _ => none
  | n + 1, ts =>
    if !startsPlain ts then none
    else
      (Tokens.ident? ts).bind fun (i, rest) =>
        match Tokens.op? "::" rest with
        | none => some (⟨leading, [⟨i, []⟩]⟩, rest)
        | some rest =>
          (plainSegments? leading n rest).map fun (p, rest) => ({ p with segments := ⟨i, []⟩ :: p.segments }, rest)

/-- A path whose names have no arguments. -/
def plain? (ts : List Tree) : Option (Path × List Tree) :=
  match Tokens.op? "::" ts with
  | some rest => plainSegments? true (Tree.sizes ts + 1) rest
  | none => plainSegments? false (Tree.sizes ts + 1) ts

def plainSegment : Reader Segment := do
  if !(← Reader.peek startsPlain) then Reader.expected .segment
  return ⟨← Reader.anyWord, []⟩

def plainName : Reader Ident := do
  if ← Reader.peek startsPlain then Reader.anyWord else Reader.name

/-- A path whose names have no arguments, as in an attribute. -/
def readPlain : Reader Path := do
  let leading ← Reader.ifOp "::"
  let first ← plainName
  return ofSegments leading (⟨first, []⟩ :: (← segmentsWhile (Tokens.hasOp "::") plainSegment))

end Path

/-- A path, perhaps behind a type between angle brackets of which it names a member. -/
structure MemberPath where
  /-- The type between its brackets, with the `::` behind it; nothing if there is no type. -/
  owner : List Tree
  path : Path

namespace MemberPath

def ofPath (p : Path) : MemberPath := ⟨[], p⟩

def trees (p : MemberPath) : List Tree := p.owner ++ p.path.trees

def hasOwner (p : MemberPath) : Bool := !p.owner.isEmpty

def append (p : MemberPath) (segments : List Segment) : MemberPath := { p with path := p.path.append segments }

end MemberPath

end StoredProperty.Source
