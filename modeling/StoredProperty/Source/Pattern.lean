import StoredProperty.Source.TypeForm.Reader

/-!
# Patterns in source text

A pattern binds the parameters of a closure and the names of a `let`. Like a type it is kept as tokens with canonical
joining; only what a list of patterns has to know of it is told apart. The readers for what a pattern holds are
parameters.
-/

namespace StoredProperty.Source

inductive Pattern where
  /-- Two points: any number of parts. -/
  | rest
  /-- A range without a beginning or without an end. -/
  | openRange (tokens : List Tree)
  | other (tokens : List Tree)

namespace Pattern

def trees : Pattern → List Tree
  | rest => Tree.op ".."
  | openRange tokens => tokens
  | other tokens => tokens

open Reader

/-- Readers for what patterns hold: paths, members of records, blocks and attributes. -/
structure Parts where
  path : Reader MemberPath
  /-- The token of a member, and whether it is a name. -/
  member : Reader (Tree × Bool)
  block : Reader (List Tree)
  attributes : Reader (List Attribute)

section

variable (parts : Parts) (nested : Reader Pattern)

def bar : List Tree := Tree.op "|"

def hasBar (ts : List Tree) : Bool := Tokens.hasOp "|" ts && !Tokens.hasOp "||" ts && !Tokens.hasOp "|=" ts

/-- Patterns behind bars. -/
def alternativesLoop : Nat → Reader (List Tree)
  | 0 => exhausted
  | n + 1 => do
    if !(← peek hasBar) then return []
    op "|"
    return bar ++ (← nested).trees ++ (← alternativesLoop n)

/-- Patterns with bars between them, and perhaps one in front. -/
def alternatives : Reader Pattern := do
  let leading ← ifOp "|"
  let first ← nested
  if !leading && !(← peek hasBar) then return first
  return .other ((if leading then bar else []) ++ first.trees ++ (← alternativesLoop nested (← rounds)))

/-- What a name may not be followed by if it is bound. -/
def opensPath (ts : List Tree) : Bool :=
  Tokens.hasOp "::" ts || Tokens.hasOp "!" ts || Tokens.hasOp ".." ts || Tokens.hasGroup .brace ts
    || Tokens.hasGroup .parenthesis ts

def startsPath (ts : List Tree) : Bool :=
  (Tokens.hasName ts && Tokens.second opensPath ts)
    || (Tokens.hasWord "self" ts && Tokens.second (Tokens.hasOp "::") ts)
    || Tokens.hasOp "::" ts || Tokens.hasOp "<" ts || Tokens.hasAnyWord ["Self", "super", "crate"] ts

/-! ### Ranges -/

def endsRange (ts : List Tree) : Bool :=
  ts.isEmpty || Tokens.hasColon ts || ["|", "=", ",", ";"].any (Tokens.hasOp · ts) || Tokens.hasWord "if" ts

/-- An end of a range: a constant, a path or a block. -/
def rangeEnd : Reader (List Tree) := do
  if let some tokens ← option Tokens.constant? then return tokens
  if ← peek fun ts => TypeForm.startsPath ts then return (← parts.path).trees
  if ← ifWord "const" then return .word "const" :: (← parts.block)
  expected .bound

/-- The signs of a range and its end, if it has one. Three points are read as a closed range. -/
def rangeFrom (start : List Tree) : Reader Pattern := do
  let closed ← if ← ifOp "..=" then pure true else if ← ifOp "..." then pure true else do
    op ".."
    pure false
  let lead := start ++ Tree.op (if closed then "..=" else "..")
  if ← peek endsRange then
    if closed then expected .upperBound
    return if start.isEmpty then .rest else .openRange lead
  let tokens := lead ++ (← rangeEnd parts)
  return if start.isEmpty then .openRange tokens else .other tokens

def constant : Reader Pattern := do
  let start ← rangeEnd parts
  if ← peek (Tokens.hasOp "..") then rangeFrom parts start else return .other start

def startsConstant (ts : List Tree) : Bool := Tokens.hasOp "-" ts || Tokens.hasConstant ts || Tokens.hasWord "const" ts

/-! ### Parts -/

def list (d : Delimiter) : Reader (List Pattern × Bool) := inside d (commas (alternatives nested))

def listTrees (items : List Pattern × Bool) : List Tree := Tree.commas (items.1.map trees) items.2

def tuple : Reader Pattern := do return .other [Tree.paren (listTrees (← list nested .parenthesis))]

def isOpen : Pattern → Bool
  | openRange _ => true
  | _ => false

def sliceItem : Reader Pattern := do
  let item ← alternatives nested
  if isOpen item then fail .openRangeInSlice else return item

def slice : Reader Pattern := do
  return .other [Tree.bracketed (listTrees (← inside .bracket (commas (sliceItem nested))))]

/-- A name that is bound, perhaps by reference, and perhaps to what matches another pattern. -/
def binding : Reader Pattern := do
  let lead := (← TypeForm.optionalWord "ref") ++ (← TypeForm.optionalWord "mut")
  let name ← if ← peek (Tokens.hasWord "self") then anyWord else name
  let whole ← if ← ifOp "@" then do pure (Tree.op "@" ++ (← nested).trees) else pure []
  return .other (lead ++ [.ident name] ++ whole)

/-- A member of a record: bound to a variable of its name, or to a pattern behind a colon. -/
def memberPattern : Reader (List Tree) := do
  let lead := (← TypeForm.optionalWord "box") ++ (← TypeForm.optionalWord "ref") ++ (← TypeForm.optionalWord "mut")
  if !lead.isEmpty then return lead ++ [.ident (← name)]
  let (member, named) ← parts.member
  if named && !(← peek (Tokens.hasOp ":")) then return [member]
  op ":"
  return member :: Tree.op ":" ++ (← alternatives nested).trees

/-- The members of a record; nothing is read behind two points. -/
def membersLoop : Nat → Reader (List Tree)
  | 0 => exhausted
  | n + 1 => do
    if ← atEnd then return []
    let attributes := Attribute.treesOf (← parts.attributes)
    if ← ifOp ".." then return attributes ++ Tree.op ".."
    let member := attributes ++ (← memberPattern parts nested)
    if ← atEnd then return member
    op ","
    return member ++ Tree.op "," ++ (← membersLoop n)

/-- A path alone, or with the patterns of its parts, or an invocation. -/
def pathPattern : Reader Pattern := do
  let p ← parts.path
  if !p.hasOwner && p.path.isPlain && (← peek Tokens.hasBang) then
    op "!"
    let (d, body) ← delimited
    return .other (p.trees ++ Tree.op "!" ++ [.group d body])
  if ← peek (Tokens.hasGroup .brace) then
    let members ← inside .brace do membersLoop parts nested (← rounds)
    return .other (p.trees ++ [Tree.braced members])
  if ← peek (Tokens.hasGroup .parenthesis) then
    return .other (p.trees ++ [Tree.paren (listTrees (← list nested .parenthesis))])
  if ← peek (Tokens.hasOp "..") then rangeFrom parts p.trees else return .other p.trees

/-- A pattern of what is in a box is kept as it is written. -/
def boxed : Reader Pattern := do
  let (_, source) ← withSource do
    word "box"
    nested
  return .other source

def startsBinding (ts : List Tree) : Bool := Tokens.hasName ts || Tokens.hasAnyWord ["ref", "mut", "self"] ts

def reference : Reader Pattern := do
  op "&"
  let mutable ← TypeForm.optionalWord "mut"
  return .other (Tree.op "&" ++ mutable ++ (← nested).trees)

def form : Reader Pattern := do
  if ← peek startsPath then pathPattern parts nested
  else if ← ifWord "_" then return .other [.word "_"]
  else if ← peek (Tokens.hasWord "box") then boxed nested
  else if ← peek startsConstant then constant parts
  else if ← peek startsBinding then binding nested
  else if ← peek (Tokens.hasOp "&") then reference nested
  else if ← peek (Tokens.hasGroup .parenthesis) then tuple nested
  else if ← peek (Tokens.hasGroup .bracket) then slice nested
  else if ← peek fun ts => Tokens.hasOp ".." ts && !Tokens.hasOp "..." ts then rangeFrom parts []
  else expected .pattern

end

def readWithin (parts : Parts) : Nat → Reader Pattern
  | 0 => exhausted
  | depth + 1 => form parts (readWithin parts depth)

/-- A pattern. -/
def read (parts : Parts) : Reader Pattern := do form parts (readWithin parts (← rounds))

/-- Patterns with bars between them. -/
def readAlternatives (parts : Parts) : Reader Pattern := do alternatives (readWithin parts (← rounds))

end Pattern

end StoredProperty.Source
