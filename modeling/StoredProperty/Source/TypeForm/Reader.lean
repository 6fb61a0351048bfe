import StoredProperty.Source.TypeForm.Bound

/-!
# Reading types

A type is known by its first token. Bounds may be added to a path, or to a bound in parentheses, where the place
admits a plus sign. Types hold expressions as lengths and as generic arguments; a reader for their tokens is a
parameter.
-/

namespace StoredProperty.Source.TypeForm

open Reader

section

variable (expr : Reader (List Tree)) (nested : Bool → Bool → Reader TypeForm)

/-! ## Functions -/

/-- A parameter's name in a function type, with the colon; only the first may be `self`. -/
def parameterName (isFirst : Bool) : Reader (List Tree) := do
  let named (ts : List Tree) : Bool :=
    (Tokens.hasName ts || Tokens.hasWord "_" ts || (isFirst && Tokens.hasWord "self" ts))
      && Tokens.second Tokens.hasColon ts
  if !(← peek named) then return []
  let i ← anyWord
  op ":"
  return .ident i :: Tree.op ":"

/-- Three points, perhaps with a name: any number of parameters. -/
def startsRemaining (ts : List Tree) : Bool :=
  Tokens.hasOp "..." ts
    || ((Tokens.hasName ts || Tokens.hasWord "_" ts) && Tokens.second (Tokens.hasOp ":") ts
      && Tokens.third (Tokens.hasOp "...") ts)

def remaining : Reader (List Tree) := do
  let name ← if ← peek Tokens.hasIdent then do
      let i ← anyWord
      op ":"
      pure (.ident i :: Tree.op ":")
    else pure []
  op "..."
  return name ++ Tree.op "..." ++ if ← ifOp "," then Tree.op "," else []

def startsMutableSelf (ts : List Tree) : Bool := Tokens.hasWord "mut" ts && Tokens.second (Tokens.hasWord "self") ts

/-- A receiver that can be changed, perhaps with a type. It is kept as it is written. -/
def mutableSelf : Reader (List Tree) := do
  let (_, source) ← withSource do
    word "mut"
    if (← parameterName true).isEmpty then word "self" else let _ ← inner nested
  return source

/-- The parameters of a function type; nothing is read behind the three points. -/
def parametersLoop (isFirst : Bool) : Nat → Reader (List Tree)
  | 0 => exhausted
  | n + 1 => do
    if ← atEnd then return []
    let attributes := Attribute.treesOf (← Attribute.readEach expr)
    if ← peek startsRemaining then return attributes ++ (← remaining)
    let parameter ← if isFirst && (← peek startsMutableSelf) then mutableSelf nested else do
      pure ((← parameterName isFirst) ++ (← inner nested))
    let parameter := attributes ++ parameter
    if ← atEnd then return parameter
    op ","
    return parameter ++ Tree.op "," ++ (← parametersLoop false n)

def foreign : Reader (List Tree) := do
  if !(← ifWord "extern") then return []
  return .word "extern" :: ((← option Tokens.text?).map Tree.literal).toList

def function : Reader (List Tree) := do
  let lead := (← optionalWord "unsafe") ++ (← foreign)
  word "fn"
  let parameters ← inside .parenthesis do parametersLoop expr nested true (← rounds)
  return lead ++ [.word "fn", Tree.paren parameters] ++ (← result (tight nested))

def startsFunction (ts : List Tree) : Bool := Tokens.hasAnyWord ["fn", "unsafe", "extern"] ts

/-! ## Types -/

def startsName (ts : List Tree) : Bool :=
  Tokens.hasName ts || Tokens.hasAnyWord ["super", "self", "Self", "crate"] ts

def startsPath (ts : List Tree) : Bool := startsName ts || Tokens.hasOp "::" ts || Tokens.hasOp "<" ts

/-- A path, an invocation that stands for a type, or the first of several bounds. -/
def pathForm (forAll : List Tree) (plus : Bool) : Reader TypeForm := do
  let p ← readMemberPath expr nested false
  if p.hasOwner then return .path p
  if p.path.isPlain && (← peek Tokens.hasBang) then
    op "!"
    let (d, body) ← delimited
    return .other (p.trees ++ Tree.op "!" ++ [.group d body])
  let (_, more) ← moreIf expr nested plus .object
  if !more.isEmpty then return .other (forAll ++ p.trees ++ more)
  return if forAll.isEmpty then .path p else .soleBound false (forAll ++ p.trees)

/-- A type for all of some lifetimes. -/
def quantified (plus : Bool) : Reader TypeForm := do
  let lifetimes ← forAll expr nested
  if ← peek startsFunction then return .other (lifetimes ++ (← function expr nested))
  if !(← peek startsName) then expected .typeForAll
  pathForm expr nested lifetimes plus

/-- What parentheses hold: bounds, a type alone, or the types of a tuple. -/
inductive Enclosed where
  | bound (tokens : List Tree)
  | type (form : TypeForm)
  | tuple (tokens : List Tree)

def enclosed : Reader Enclosed := do
  if ← atEnd then return .tuple []
  if ← peek Tokens.hasLifetime then return .type (.other (← someTrait expr nested true .object))
  if ← peek (Tokens.hasOp "?") then return .bound (← soleTrait expr nested)
  let first ← nested true true
  if !(← peek (Tokens.hasOp ",")) then return .type first
  op ","
  let (items, trailing) ← commas (inner nested)
  return .tuple (Tree.commas (first.trees :: items) (trailing || items.isEmpty))

def parenthesized (plus : Bool) : Reader TypeForm := do
  match ← inside .parenthesis (enclosed expr nested) with
  | .tuple tokens => return .other [Tree.paren tokens]
  | .bound tokens =>
    let (_, more) ← moreBounds expr nested true .object
    return if more.isEmpty then .soleBound true tokens else .other ([Tree.paren tokens] ++ more)
  | .type form =>
    match form.firstBound? with
    | none => return .other [Tree.paren form.trees]
    | some tokens =>
      let (_, more) ← if plus then moreBounds expr nested true .object else pure (false, [])
      return .other (if more.isEmpty then [Tree.paren form.trees] else [Tree.paren tokens] ++ more)

def array : Reader TypeForm := do
  let body ← inside .bracket do
    let item ← inner nested
    if ← ifOp ";" then return item ++ Tree.op ";" ++ (← expr)
    return item
  return .other [Tree.bracketed body]

def pointer : Reader TypeForm := do
  op "*"
  match ← peek fun ts => ["const", "mut"].find? (Tokens.hasWord · ts) with
  | none => expected .pointee
  | some word =>
    Reader.word word
    return .other (Tree.op "*" ++ [.word word] ++ (← tight nested))

def reference : Reader TypeForm := do
  op "&"
  let name ← option Tokens.lifetime?
  let mutable ← optionalWord "mut"
  return .other (Tree.op "&" ++ (name.map Tree.lifetime).getD [] ++ mutable ++ (← tight nested))

/-- A type that is only known by its bounds. -/
def hiddenForm (plus : Bool) : Reader TypeForm := do
  word "impl"
  return .other (.word "impl" :: (← someTrait expr nested plus .hidden))

/-- An object of which only its bounds are known. With an asterisk it is kept as it is written. -/
def objectForm (plus : Bool) : Reader TypeForm := do
  let ((asterisk, bounds), source) ← withSource do
    word "dyn"
    return (← ifOp "*", ← someTrait expr nested plus .object)
  return .other (if asterisk then source else .word "dyn" :: bounds)

/-- A name follows `::`. -/
def goesOn (ts : List Tree) : Bool := (Tokens.op? "::" ts).any Tokens.hasIdent

/-- A type out of an invisible group. A path may go on behind it, with arguments first where `generics` says so; of
any other type a path may name a member. -/
def substituted (generics : Bool) (body : List Tree) : Reader TypeForm := do
  let form ← within .invisible body (nested true true)
  match form with
  | .path p =>
    if ← peek goesOn then return .path (p.append (← Path.more false (arguments expr nested)))
    if p.path.endsPlain && (← peek fun ts => (generics && Tokens.hasOp "<" ts) || Path.hasTurbofish ts) then
      let p := { p with path := p.path.withArguments (← Path.turbofish (arguments expr nested)) }
      return .path (p.append (← Path.more false (arguments expr nested)))
    return .other [.group .invisible form.trees]
  | _ =>
    if !(← peek goesOn) then return .other [.group .invisible form.trees]
    op "::"
    let first ← Path.segment false (arguments expr nested)
    let rest ← Path.more false (arguments expr nested)
    return .path ⟨Tree.op "<" ++ form.trees ++ Tree.op ">" ++ Path.separator, .ofSegments false (first :: rest)⟩

def form (plus generics : Bool) : Reader TypeForm := do
  if let some body ← option Tokens.invisible? then substituted expr nested generics body
  else if ← peek (Tokens.hasWord "for") then quantified expr nested plus
  else if ← peek (Tokens.hasGroup .parenthesis) then parenthesized expr nested plus
  else if ← peek startsFunction then return .other (← function expr nested)
  else if ← peek startsPath then pathForm expr nested [] plus
  else if ← peek (Tokens.hasWord "dyn") then objectForm expr nested plus
  else if ← peek (Tokens.hasGroup .bracket) then array expr nested
  else if ← peek (Tokens.hasOp "*") then pointer nested
  else if ← peek (Tokens.hasOp "&") then reference nested
  else if ← ifOp "!" then return .other (Tree.op "!")
  else if ← peek (Tokens.hasWord "impl") then hiddenForm expr nested plus
  else if ← ifWord "_" then return .other [.word "_"]
  else if ← peek Tokens.hasLifetime then return .other (← someTrait expr nested true .object)
  else expected .type

end

/-- Types nest less deep than `depth`. -/
def readWithin (expr : Reader (List Tree)) : Nat → Bool → Bool → Reader TypeForm
  | 0, _, _ => exhausted
  | depth + 1, plus, generics => form expr (readWithin expr depth) plus generics

/-- A type. `plus` says whether bounds may be added, and `generics` whether arguments may follow an invisible group. -/
def read (expr : Reader (List Tree)) (plus generics : Bool) : Reader TypeForm := do
  form expr (readWithin expr (← rounds)) plus generics

/-- The tokens of a type. -/
def tokens (expr : Reader (List Tree)) : Reader (List Tree) := TypeForm.trees <$> read expr true true

end StoredProperty.Source.TypeForm
