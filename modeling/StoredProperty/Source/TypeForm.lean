import StoredProperty.Source.Path
import StoredProperty.Source.StringLiteral

/-!
# Types in source text

Nothing looks into a type, so that it is kept as tokens: those that it was written with, but with the operators joined
as the grammar says. Only a path stays a path, because it can go on, and a bound a bound, because more can follow it.
-/

namespace StoredProperty.Source

inductive TypeForm where
  | path (p : MemberPath)
  /-- A single bound that stands for a type, perhaps between parentheses. -/
  | soleBound (enclosed : Bool) (tokens : List Tree)
  | other (tokens : List Tree)

namespace TypeForm

def trees : TypeForm → List Tree
  | path p => p.trees
  | soleBound enclosed tokens => if enclosed then [Tree.paren tokens] else tokens
  | other tokens => tokens

/-- A single segment without a leading `::`. -/
def isSegment : TypeForm → Bool
  | path p => !p.hasOwner && !p.path.leading && p.path.segments.length = 1
  | _ => false

/-- The tokens of a type that can be the first of several bounds when it stands between parentheses. -/
def firstBound? : TypeForm → Option (List Tree)
  | path p => if p.hasOwner then none else some p.trees
  | soleBound _ tokens => some tokens
  | other _ => none

end TypeForm

/-- A literal that is a text. -/
def Tokens.text? (ts : List Tree) : Option (String × List Tree) :=
  (literal? ts).bind fun (text, rest) =>
    match StringLiteral.read? text.toList with
    | some (.text, _) => some (text, rest)
    | _ => none

end StoredProperty.Source
