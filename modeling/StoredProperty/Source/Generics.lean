import StoredProperty.Source.Attribute

/-!
# Generic parameters

The parameters of an item and the conditions on them are written in three ways: as they are declared, in front of an
implementation without defaults, and behind the item's name as names alone. Lifetimes come first. Conditions without
any predicate are left out.
-/

namespace StoredProperty.Source

/-- Items between commas with the lifetimes moved to the front. A lifetime that ended them takes a comma with it. -/
def lifetimesFirst {α : Type} (isLifetime : α → Bool) (items : List α) (trailing : Bool) : List α × Bool :=
  let (lifetimes, others) := items.partition isLifetime
  (lifetimes ++ others, trailing || (!others.isEmpty && items.getLast?.any isLifetime))

namespace Reader

/-- Items with commas between them up to where `stop` holds, lifetimes first. -/
def lifetimesUntil {α : Type} (stop : List Tree → Bool) (isLifetime : α → Bool) (item : Reader α) :
    Reader (List α × Bool) := do
  let (items, trailing) ← commasUntil stop item
  return lifetimesFirst isLifetime items trailing

/-- Items between angle brackets, lifetimes first. -/
def angled {α : Type} (isLifetime : α → Bool) (item : Reader α) : Reader (List α × Bool) := do
  op "<"
  let items ← lifetimesUntil (Tokens.hasOp ">") isLifetime item
  op ">"
  return items

end Reader

structure GenericParameter where
  attributes : List Attribute
  isLifetime : Bool
  /-- The word in front of the name of a constant. -/
  lead : List Tree
  name : List Tree
  /-- The bounds or the type, with the colon. -/
  bounds : List Tree
  /-- The default, with the equals sign. -/
  default : List Tree

structure Generics where
  /-- The parameters, lifetimes first. -/
  parameters : List GenericParameter
  trailing : Bool
  /-- The conditions, with the word in front. -/
  conditions : List Tree

namespace GenericParameter

/-- What stands in front of an implementation. -/
def bounded (p : GenericParameter) : List Tree := Attribute.treesOf p.attributes ++ p.lead ++ p.name ++ p.bounds

def declared (p : GenericParameter) : List Tree := p.bounded ++ p.default

end GenericParameter

namespace Generics

def none : Generics := ⟨[], false, []⟩

/-- The parameters between angle brackets, each written as `form` says. -/
def written (g : Generics) (form : GenericParameter → List Tree) : List Tree :=
  if g.parameters.isEmpty then []
  else Tree.op "<" ++ Tree.commas (g.parameters.map form) g.trailing ++ Tree.op ">"

def declared (g : Generics) : List Tree := g.written GenericParameter.declared

def bounded (g : Generics) : List Tree := g.written GenericParameter.bounded

def named (g : Generics) : List Tree := g.written GenericParameter.name

/-- What looks like parameters and not like a type between angle brackets. -/
def opens (ts : List Tree) : Bool :=
  let ends (ts : List Tree) : Bool := Tokens.hasColon ts || [">", ",", "="].any (Tokens.hasOp · ts)
  let first (ts : List Tree) : Bool :=
    Tokens.hasOp ">" ts || Tokens.hasOp "#" ts || Tokens.hasWord "const" ts
      || ((Tokens.hasLifetime ts || Tokens.hasName ts) && Tokens.second ends ts)
  Tokens.hasOp "<" ts && Tokens.second first ts

end Generics

end StoredProperty.Source
