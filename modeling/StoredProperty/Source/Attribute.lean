import StoredProperty.Source.Path

/-!
# Attributes

An attribute stands between brackets behind a hash in front of an item or a field, or behind a hash and an exclamation
mark within what it belongs to. Behind its path there is nothing, or a group of any kind whose tokens it keeps as they
were written, or a value. The value is an expression; a reader for the tokens of one is a parameter.
-/

namespace StoredProperty.Source

inductive AttributeContent where
  | word
  | list (d : Delimiter) (body : List Tree)
  | value (tokens : List Tree)

structure Attribute where
  path : Path
  content : AttributeContent
  /-- The attribute belongs to what it stands in. -/
  inner : Bool := false

namespace AttributeContent

def trees : AttributeContent → List Tree
  | word => []
  | list d body => [.group d body]
  | value tokens => Tree.op "=" ++ tokens

open Reader

def startsList (ts : List Tree) : Bool := [Delimiter.parenthesis, .bracket, .brace].any (Tokens.hasGroup · ts)

def startsValue (ts : List Tree) : Bool := Tokens.hasOp "=" ts && !Tokens.hasOp "==" ts && !Tokens.hasOp "=>" ts

def startsAttribute (ts : List Tree) : Bool := Tokens.hasOp "#" ts && Tokens.second (Tokens.hasGroup .bracket) ts

/-- A constant with its sign that is all there is. -/
def soleConstant? (ts : List Tree) : Option (List Tree × List Tree) := (Tokens.constant? ts).filter (·.2.isEmpty)

/-- The tokens of a value: a constant, if it is nothing else, or an expression. -/
def valueTokens (expr : Reader (List Tree)) : Reader (List Tree) := do
  if let some tokens ← option soleConstant? then return tokens
  if ← peek startsAttribute then fail .attributeInAttribute
  expr

def read (expr : Reader (List Tree)) : Reader AttributeContent := do
  if ← peek startsList then
    let (d, body) ← delimited
    return list d body
  if !(← peek startsValue) then return word
  op "="
  return value (← valueTokens expr)

end AttributeContent

namespace Attribute

/-- The attribute is named by a single word. -/
def isNamed (a : Attribute) (name : String) : Bool := a.path.name? = some (.plain name)

def trees (a : Attribute) : List Tree :=
  Tree.op "#" ++ (if a.inner then Tree.op "!" else []) ++ [Tree.bracketed (a.path.trees ++ a.content.trees)]

def treesOf (attributes : List Attribute) : List Tree := attributes.flatMap trees

open Reader

/-- A path of names alone, or the one keyword that an attribute may be. -/
def pathReader : Reader Path := do
  if ← ifWord "unsafe" then return .ofName (.plain "unsafe")
  Path.readPlain

/-- What stands between the brackets. -/
def brackets (expr : Reader (List Tree)) (inner : Bool) : Reader Attribute :=
  inside .bracket do return { path := ← pathReader, content := ← AttributeContent.read expr, inner }

def read (expr : Reader (List Tree)) : Reader Attribute := do
  op "#"
  brackets expr false

/-- All attributes in front of something. -/
def readEach (expr : Reader (List Tree)) : Reader (List Attribute) := manyWhile (Tokens.hasOp "#") (read expr)

def startsInner (ts : List Tree) : Bool := Tokens.hasOp "#" ts && Tokens.second (Tokens.hasOp "!") ts

def readInner (expr : Reader (List Tree)) : Reader Attribute := do
  op "#"
  op "!"
  brackets expr true

/-- All attributes at the beginning of what they belong to. -/
def readInnerEach (expr : Reader (List Tree)) : Reader (List Attribute) := manyWhile startsInner (readInner expr)

end Attribute

end StoredProperty.Source
