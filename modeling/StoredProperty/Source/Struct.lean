import StoredProperty.Source.Generics.Reader
import StoredProperty.Source.Visibility

/-!
# Structs

The declaration of a struct. Only named fields are kept apart; the types of a tuple matter to nobody and stay tokens. A
struct is written with fields that may differ from those it was read with. A reader for the tokens of an expression is
a parameter of the readers here.
-/

namespace StoredProperty.Source

structure Field where
  attributes : List Attribute
  visibility : List Tree
  name : Ident
  type : List Tree

inductive Fields where
  | named (fields : List Field) (trailing : Bool)
  | tuple (body : List Tree)
  | unit

structure Struct where
  attributes : List Attribute
  visibility : List Tree
  name : Ident
  generics : Generics
  fields : Fields

namespace Field

def trees (f : Field) : List Tree :=
  Attribute.treesOf f.attributes ++ f.visibility ++ [.ident f.name] ++ Tree.op ":" ++ f.type

end Field

def Fields.braced (fields : List Field) (trailing : Bool) : Tree :=
  Tree.braced (Tree.commas (fields.map Field.trees) trailing)

namespace Struct

/-- What stands in front of the fields. -/
def heading (s : Struct) : List Tree :=
  Attribute.treesOf s.attributes ++ s.visibility ++ [.word "struct", .ident s.name] ++ s.generics.declared

/-- The struct with the given fields in place of its own. -/
def treesWith (s : Struct) (fields : List Field) : List Tree :=
  s.heading ++ s.generics.conditions ++ [Fields.braced fields false]

def trees (s : Struct) : List Tree :=
  s.heading ++ match s.fields with
    | .named fields trailing => s.generics.conditions ++ [Fields.braced fields trailing]
    | .tuple body => Tree.paren body :: s.generics.conditions ++ Tree.op ";"
    | .unit => s.generics.conditions ++ Tree.op ";"

/-- An implementation for the struct. -/
def implementation (s : Struct) (body : List Tree) : List Tree :=
  .word "impl" :: s.generics.bounded ++ [.ident s.name] ++ s.generics.named ++ s.generics.conditions
    ++ [Tree.braced body]

end Struct

/-! ## Reading -/

open Reader

section

variable (expr : Reader (List Tree))

/-- A field of a tuple. -/
def Fields.tupleField : Reader (List Tree) := do
  let attributes ← Attribute.readEach expr
  let visibility ← Visibility.read
  return Attribute.treesOf attributes ++ visibility ++ (← Generics.typeTokens expr)

def Fields.readTuple : Reader (List Tree) := do
  let (items, trailing) ← inside .parenthesis (commas (Fields.tupleField expr))
  return Tree.commas items trailing

/-- A record in the place of a type: a field without a name may have one. -/
def Field.startsRecord (ts : List Tree) : Bool :=
  Tokens.hasWord "struct" ts || (Tokens.hasWord "union" ts && Tokens.second (Tokens.hasGroup .brace) ts)

/-- A field; its name may be an underscore. Records inside each other nest less deep than `depth`. -/
def Field.readWithin : Nat → Reader Field
  | 0 => exhausted
  | depth + 1 => do
    let attributes ← Attribute.readEach expr
    let visibility ← Visibility.read
    let unnamed ← peek (Tokens.hasWord "_")
    let name ← if unnamed then anyWord else Reader.name
    op ":"
    if unnamed && (← peek Field.startsRecord) then
      let (_, type) ← withSource do
        let _ ← anyWord
        inside .brace (commas (Field.readWithin depth))
      return { attributes, visibility, name, type }
    return { attributes, visibility, name, type := ← Generics.typeTokens expr }

def Field.readWith : Reader Field := do Field.readWithin expr (← rounds)

def Fields.readNamed : Reader (List Field × Bool) := inside .brace (commas (Field.readWith expr))

/-- The conditions and the fields. Conditions stand behind the fields of a tuple, else in front of them. -/
def Fields.readWith : Reader (List Tree × Fields) := do
  if ← peek (Tokens.hasGroup .parenthesis) then
    let body ← Fields.readTuple expr
    let conditions ← Generics.conditionTokens expr
    op ";"
    return (conditions, .tuple body)
  let conditions ← Generics.conditionTokens expr
  if ← ifOp ";" then return (conditions, .unit)
  let (fields, trailing) ← Fields.readNamed expr
  return (conditions, .named fields trailing)

def Struct.readWith : Reader Struct := do
  let attributes ← Attribute.readEach expr
  let visibility ← Visibility.read
  word "struct"
  let name ← Reader.name
  let (parameters, trailing) ← Generics.readParameters expr
  let (conditions, fields) ← Fields.readWith expr
  return { attributes, visibility, name, generics := { parameters, trailing, conditions }, fields }

end

end StoredProperty.Source
