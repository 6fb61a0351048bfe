import StoredProperty.Source.Generics
import StoredProperty.Source.TypeForm

/-!
# Bounds and generic arguments

A bound is a lifetime or a trait, which may be for all of some parameters; a trait has generic arguments, which may
have bounds again. All of them are read as tokens. They hold expressions and types, and readers for these are
parameters: `expr` reads the tokens of an expression, and `nested` a type. Bounds stand inside each other behind at
least one token, so that they are no deeper than there are tokens.
-/

namespace StoredProperty.Source.TypeForm

open Reader

/-- What a bound may be besides a lifetime and a trait. -/
structure BoundRule where
  /-- It may say what is captured. -/
  captures : Bool
  /-- It may be constant. -/
  constant : Bool

namespace BoundRule

/-- The bounds of an object. -/
def object : BoundRule := ⟨false, false⟩

/-- The bounds of a parameter or of a member. -/
def parameter : BoundRule := ⟨false, true⟩

/-- The bounds of a type that is only known by them. -/
def hidden : BoundRule := ⟨true, true⟩

end BoundRule

/-- The word, if it is there, as tokens. -/
def optionalWord (word : String) : Reader (List Tree) := do return if ← ifWord word then [.word word] else []

def lifetimeTokens : Reader (List Tree) := Tree.lifetime <$> lifetime

/-! ## Lists of bounds -/

def boundsLoop (stop : List Tree → Bool) (bound : Reader (List Tree)) : Nat → Reader (List Tree)
  | 0 => exhausted
  | n + 1 => do
    if ← peek stop then return []
    let first ← bound
    if !(← ifOp "+") then return first
    return first ++ Tree.op "+" ++ (← boundsLoop stop bound n)

/-- Bounds with plus signs between them; the last may stand behind the last bound. -/
def bounds (stop : List Tree → Bool) (bound : Reader (List Tree)) : Reader (List Tree) := do
  boundsLoop stop bound (← rounds)

/-- Bounds behind a colon; a colon without bounds does not count. -/
def colonBounds (bounds : Reader (List Tree)) : Reader (List Tree) := do
  if !(← ifOp ":") then return []
  let tokens ← bounds
  return if tokens.isEmpty then [] else Tree.op ":" ++ tokens

/-- Items between angle brackets, each with whether it is a lifetime. -/
def bracketed (items : List (Bool × List Tree)) (trailing : Bool) : List Tree :=
  Tree.op "<" ++ Tree.commas (items.map Prod.snd) trailing ++ Tree.op ">"

def startsBound (constant : Bool) (ts : List Tree) : Bool :=
  Tokens.hasIdent ts || Tokens.hasOp "::" ts || Tokens.hasOp "?" ts || Tokens.hasLifetime ts
    || Tokens.hasGroup .parenthesis ts || (constant && Tokens.hasGroup .bracket ts)

/-- Bounds behind plus signs; where it is not `strict`, a plus sign may stand behind the last. -/
def moreLoop (strict constant : Bool) (bound : Reader (Bool × List Tree)) : Nat → Reader (Bool × List Tree)
  | 0 => exhausted
  | n + 1 => do
    if !(← ifOp "+") then return (false, [])
    if !strict && !(← peek (startsBound constant)) then return (false, Tree.op "+")
    let (isTrait, first) ← bound
    let (areTraits, rest) ← moreLoop strict constant bound n
    return (isTrait || areTraits, Tree.op "+" ++ first ++ rest)

section

variable (expr : Reader (List Tree)) (nested : Bool → Bool → Reader TypeForm)

/-- The tokens of a type, to which bounds may be added. -/
def inner : Reader (List Tree) := TypeForm.trees <$> nested true true

/-- The tokens of a type that ends where a bound would be added. -/
def tight : Reader (List Tree) := TypeForm.trees <$> nested false true

/-- What stands behind an operator, if that is there. -/
def behindOp (o : String) (value : Reader (List Tree)) : Reader (List Tree) := do
  if !(← ifOp o) then return []
  return Tree.op o ++ (← value)

/-- The type behind an arrow. -/
def result (type : Reader (List Tree)) : Reader (List Tree) := behindOp "->" type

/-! ## Constants -/

def startsConstant (ts : List Tree) : Bool := Tokens.hasConstant ts || Tokens.hasGroup .brace ts

/-- A constant: a literal, a name or a block. -/
def constant : Reader (List Tree) := do
  if let some tokens ← option Tokens.constant? then return tokens
  if let some i ← option Tokens.name? then return [.ident i]
  if !(← peek (Tokens.hasGroup .brace)) then fail (.noConstant (← atEnd))
  within .invisible [Tree.braced (← group .brace)] expr

/-- A value behind an equals sign. -/
def defaultTokens (value : Reader (List Tree)) : Reader (List Tree) := behindOp "=" value

section

variable (bound : BoundRule → Reader (Bool × List Tree))

def boundTokens (rule : BoundRule) : Reader (List Tree) := Prod.snd <$> bound rule

/-! ## Parameters -/

def endsLifetimeBounds (ts : List Tree) : Bool := Tokens.hasOp "," ts || Tokens.hasOp ">" ts

def endsParameterBounds (ts : List Tree) : Bool := endsLifetimeBounds ts || Tokens.hasOp "=" ts

/-- Whether an underscore stands in the place of a parameter. -/
def isPlaceholder (underscore : Bool) : Reader Bool := do
  if underscore then ifWord "_" else return false

/-- A parameter: a lifetime, a constant, a type, or an underscore, which has neither bounds nor a default. -/
def parameterWith (underscore : Bool) : Reader GenericParameter := do
  let attributes ← Attribute.readEach expr
  if ← peek Tokens.hasLifetime then
    let name ← lifetimeTokens
    let bounds ← colonBounds (bounds endsLifetimeBounds lifetimeTokens)
    return { attributes, isLifetime := true, lead := [], name, bounds, default := [] }
  if ← ifWord "const" then
    let i ← name
    op ":"
    let type ← inner nested
    let default ← defaultTokens (constant expr)
    return { attributes, isLifetime := false, lead := [.word "const"], name := [.ident i],
             bounds := Tree.op ":" ++ type, default }
  if ← isPlaceholder underscore then
    return { attributes, isLifetime := false, lead := [], name := [.word "_"], bounds := [], default := [] }
  match ← option Tokens.name? with
  | some i =>
    let bounds ← colonBounds (bounds endsParameterBounds (boundTokens bound .parameter))
    let default ← defaultTokens (inner nested)
    return { attributes, isLifetime := false, lead := [], name := [.ident i], bounds, default }
  | none => expected (.choice (if underscore then ["lifetime", "identifier", "`const`"]
      else ["identifier", "lifetime", "`const`"]))

/-- The parameters that a bound, a closure or a type is for all of. -/
def forAllWith : Reader (List Tree) := do
  if !(← ifWord "for") then return []
  op "<"
  let (items, trailing) ← commasUntil (Tokens.hasOp ">") (parameterWith expr nested bound false)
  op ">"
  return [.word "for"] ++ Tree.op "<" ++ Tree.commas (items.map GenericParameter.declared) trailing ++ Tree.op ">"

/-! ## Arguments -/

def endsArgumentBounds (ts : List Tree) : Bool := Tokens.hasOp "," ts || Tokens.hasOp ">" ts

/-- What the member of a trait is said to be. -/
def argumentValue : Reader (List Tree) := do
  if ← peek startsConstant then constant expr else inner nested

/-- An argument, and whether it is a lifetime. -/
def argumentWith : Reader (Bool × List Tree) := do
  if ← peek fun ts => Tokens.hasLifetime ts && !Tokens.second (Tokens.hasOp "+") ts then
    return (true, ← lifetimeTokens)
  if ← peek startsConstant then return (false, ← constant expr)
  let form ← nested true true
  if form.isSegment then
    if ← ifOp "=" then return (false, form.trees ++ Tree.op "=" ++ (← argumentValue expr nested))
    if ← ifOp ":" then
      return (false, form.trees ++ Tree.op ":" ++ (← bounds endsArgumentBounds (boundTokens bound .parameter)))
  return (false, form.trees)

/-- Generic arguments from their bracket on. -/
def argumentsWith : Reader (List Tree) := do
  let (items, trailing) ← angled Prod.fst (argumentWith expr nested bound)
  return bracketed items trailing

/-! ## Bounds -/

/-- The parameters and the result of a bound that is a function. -/
def signature : Reader (List Tree) := do
  let _ ← ifOp "::"
  let (items, trailing) ← inside .parenthesis (commas (inner nested))
  return [Tree.paren (Tree.commas items trailing)] ++ (← result (tight nested))

def hasSignature (ts : List Tree) : Bool :=
  Tokens.hasGroup .parenthesis ts || (Tokens.op? "::" ts).any (Tokens.hasGroup .parenthesis)

/-- The word `const`, perhaps in brackets, in front of a trait that is constant. -/
def constantMark (allowed : Bool) : Reader Bool := do
  if ← peek (Tokens.hasGroup .bracket) then
    inside .bracket (word "const")
    if !allowed then fail (.constantBound true)
    return true
  if ← ifWord "const" then
    if !allowed then fail (.constantBound false)
    return true
  return false

/-- A path with the parameters and the result behind it, if there are any. -/
def withSignature (p : Path) : Reader Path := do
  let takesSignature := p.endsWithoutArguments && (← peek hasSignature)
  if takesSignature then return p.withArguments (← signature nested) else return p

/-- What stands behind a question mark in front of a trait and may not. -/
def behindQuestion (maybe : Bool) (before : List Tree) : Reader (List Tree) := do
  if maybe && before.isEmpty then forAllWith expr nested bound else return []

/-- A trait, and whether it is constant. It is for all of some parameters, or it need not hold, but not both. -/
def traitWith (rule : BoundRule) : Reader (Bool × List Tree) := do
  let before ← forAllWith expr nested bound
  let constant ← constantMark rule.constant
  let maybe ← ifOp "?"
  let behind ← behindQuestion expr nested bound maybe before
  let p ← withSignature nested (← Path.read false (argumentsWith expr nested bound))
  if !maybe then return (constant, before ++ p.trees)
  if !before.isEmpty || !behind.isEmpty then fail .optionalForAll
  return (constant, Tree.op "?" ++ p.trees)

/-- A lifetime or a name that is captured. -/
def captured : Reader (Bool × List Tree) := do
  if ← peek Tokens.hasLifetime then return (true, ← lifetimeTokens)
  match ← option fun ts => (Tokens.name? ts).or ((Tokens.word? "Self" ts).map (.plain "Self", ·)) with
  | some i => return (false, [.ident i])
  | none => expected (.choice ["lifetime", "identifier", "`>`"])

/-- What is captured, between angle brackets. -/
def captures : Reader (List Tree) := do
  word "use"
  let (items, trailing) ← angled Prod.fst captured
  return .word "use" :: bracketed items trailing

/-- A bound, and whether it is a trait. A constant trait is kept as it is written. -/
def boundWith (rule : BoundRule) : Reader (Bool × List Tree) := do
  if ← peek Tokens.hasLifetime then return (false, ← lifetimeTokens)
  if ← peek (Tokens.hasWord "use") then
    let tokens ← captures
    if !rule.captures then fail .captureBound
    return (false, tokens)
  let ((constant, tokens), source) ← withSource do
    if !(← peek (Tokens.hasGroup .parenthesis)) then return ← traitWith expr nested bound rule
    let (constant, tokens) ← inside .parenthesis (traitWith expr nested bound rule)
    return (constant, [Tree.paren tokens])
  return (true, if constant then source else tokens)

end

def boundWithin : Nat → BoundRule → Reader (Bool × List Tree)
  | 0, _ => exhausted
  | depth + 1, rule => boundWith expr nested (boundWithin depth) rule

def bound (rule : BoundRule) : Reader (Bool × List Tree) := do boundWithin expr nested (← rounds) rule

/-- A trait that stands for a type by itself. -/
def soleTrait : Reader (List Tree) := Prod.snd <$> traitWith expr nested (bound expr nested) .object

def parameter (underscore : Bool) : Reader GenericParameter :=
  parameterWith expr nested (bound expr nested) underscore

def forAll : Reader (List Tree) := forAllWith expr nested (bound expr nested)

def arguments : Reader (List Tree) := argumentsWith expr nested (bound expr nested)

/-- The bounds of a parameter or of a member, up to what ends them. -/
def parameterBounds (stop : List Tree → Bool) : Reader (List Tree) :=
  bounds stop (boundTokens (bound expr nested) .parameter)

def moreBounds (strict : Bool) (rule : BoundRule) : Reader (Bool × List Tree) := do
  moreLoop strict rule.constant (bound expr nested rule) (← rounds)

/-- More bounds, if there may be a `plus`. -/
def moreIf (plus : Bool) (rule : BoundRule) : Reader (Bool × List Tree) := do
  if plus then moreBounds expr nested false rule else return (false, [])

/-- Bounds, more than one only if there may be a `plus`; one has to be a trait. -/
def someTrait (plus : Bool) (rule : BoundRule) : Reader (List Tree) := do
  let (isTrait, first) ← bound expr nested rule
  let (areTraits, rest) ← moreIf expr nested plus rule
  if !isTrait && !areTraits then fail (.noTrait !rule.captures)
  return first ++ rest

/-! ## Paths -/

def readPath (inExpression : Bool) : Reader Path := Path.read inExpression (arguments expr nested)

/-- The trait that a type is seen as. -/
def view : Reader (List Tree) := do
  if !(← ifWord "as") then return []
  return .word "as" :: (← readPath expr nested false).trees

/-- A type between angle brackets, perhaps seen as a trait, with the `::` behind it. -/
def owner : Reader (List Tree) := do
  op "<"
  let type ← inner nested
  let view ← view expr nested
  op ">"
  op "::"
  return Tree.op "<" ++ type ++ view ++ Tree.op ">" ++ Path.separator

def readMemberPath (inExpression : Bool) : Reader MemberPath := do
  if !(← peek (Tokens.hasOp "<")) then return .ofPath (← readPath expr nested inExpression)
  let owner ← owner expr nested
  let segment := Path.segment inExpression (arguments expr nested)
  let first ← segment
  return ⟨owner, .ofSegments false (first :: (← Path.segmentsWhile (Tokens.hasOp "::") segment))⟩

end

end StoredProperty.Source.TypeForm
