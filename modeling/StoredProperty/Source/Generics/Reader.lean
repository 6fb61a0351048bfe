import StoredProperty.Source.TypeForm.Reader

/-!
# Reading generic parameters

The parameters stand behind the name of an item, the conditions behind a word of their own, further on. A reader for the
tokens of an expression is a parameter.
-/

namespace StoredProperty.Source.Generics

open Reader

section

variable (expr : Reader (List Tree))

def typeTokens : Reader (List Tree) := TypeForm.tokens expr

/-- Bounds of a member or of a type in a condition. -/
def boundsUntil (stop : List Tree → Bool) : Reader (List Tree) :=
  TypeForm.parameterBounds expr (TypeForm.read expr) stop

def readParameters : Reader (List GenericParameter × Bool) := do
  if !(← peek (Tokens.hasOp "<")) then return ([], false)
  angled GenericParameter.isLifetime (TypeForm.parameter expr (TypeForm.read expr) true)

def endsCondition (ts : List Tree) : Bool :=
  ts.isEmpty || Tokens.hasGroup .brace ts || Tokens.hasColon ts || [",", ";", "="].any (Tokens.hasOp · ts)

/-- What a lifetime outlives ends at any colon. -/
def endsLifetimeCondition (ts : List Tree) : Bool := endsCondition ts || Tokens.hasOp ":" ts

def condition : Reader (List Tree) := do
  if ← peek fun ts => (Tokens.lifetime? ts).any (Tokens.hasOp ":" ·.2) then
    let name ← TypeForm.lifetimeTokens
    op ":"
    return name ++ Tree.op ":" ++ (← TypeForm.bounds endsLifetimeCondition TypeForm.lifetimeTokens)
  let before ← TypeForm.forAll expr (TypeForm.read expr)
  let type ← typeTokens expr
  op ":"
  return before ++ type ++ Tree.op ":" ++ (← boundsUntil expr endsCondition)

/-- Conditions behind the word `where`; a comma may end them. -/
def conditionsLoop : Nat → Reader (List (List Tree) × Bool)
  | 0 => exhausted
  | n + 1 => do
    if ← peek endsCondition then return ([], true)
    let first ← condition expr
    if !(← ifOp ",") then return ([first], false)
    let (rest, trailing) ← conditionsLoop n
    return (first :: rest, trailing)

/-- The conditions with the word in front of them, if there are any. -/
def conditionTokens : Reader (List Tree) := do
  if !(← ifWord "where") then return []
  if ← peek opens then fail .parametersAfterWhere
  let (items, trailing) ← conditionsLoop expr (← rounds)
  return if items.isEmpty then [] else .word "where" :: Tree.commas items trailing

end

end StoredProperty.Source.Generics
