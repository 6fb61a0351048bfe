import StoredProperty.Source.Attribute

/-!
# Expressions

The syntax trees of expressions, and the tokens that each is written with. Parentheses and closing commas are part of
a tree, so that writing needs to know nothing about the binding of operators. A group holds what came out of an
invisible group: it is one operand, but is written without delimiters. Types, patterns, the bodies of invocations and
what only a keyword tells apart are kept as tokens. Attributes belong to the operand behind them, which is no range.
-/

namespace StoredProperty.Source

inductive UnaryOp where
  | negate | not | dereference
  deriving DecidableEq

def UnaryOp.text : UnaryOp → String
  | negate => "-"
  | not => "!"
  | dereference => "*"

inductive Borrow where
  | shared | mutable | rawConst | rawMutable
  deriving DecidableEq

/-- The words behind the ampersand. -/
def Borrow.words : Borrow → List String
  | shared => []
  | mutable => ["mut"]
  | rawConst => ["raw", "const"]
  | rawMutable => ["raw", "mut"]

def Borrow.trees (b : Borrow) : List Tree := Tree.op "&" ++ b.words.map Tree.word

inductive Arithmetic where
  | add | subtract | multiply | divide | remainder | bitXor | bitAnd | bitOr | shiftLeft | shiftRight
  deriving DecidableEq

def Arithmetic.text : Arithmetic → String
  | add => "+"
  | subtract => "-"
  | multiply => "*"
  | divide => "/"
  | remainder => "%"
  | bitXor => "^"
  | bitAnd => "&"
  | bitOr => "|"
  | shiftLeft => "<<"
  | shiftRight => ">>"

inductive Comparison where
  | equal | less | lessOrEqual | notEqual | greaterOrEqual | greater
  deriving DecidableEq

def Comparison.text : Comparison → String
  | equal => "=="
  | less => "<"
  | lessOrEqual => "<="
  | notEqual => "!="
  | greaterOrEqual => ">="
  | greater => ">"

inductive BinaryOp where
  | arithmetic (op : Arithmetic)
  | comparison (op : Comparison)
  | and
  | or
  /-- Writes the result into the left operand. -/
  | update (op : Arithmetic)
  deriving DecidableEq

def BinaryOp.text : BinaryOp → String
  | arithmetic op => op.text
  | comparison op => op.text
  | and => "&&"
  | or => "||"
  | update op => op.text ++ "="

def rangeText (closed : Bool) : String := if closed then "..=" else ".."

inductive Member where
  | named (name : Ident)
  | index (n : Nat)
  deriving DecidableEq

def Member.tree : Member → Tree
  | named name => .ident name
  | index n => .literal (toString n)

mutual

inductive Expr where
  /-- A literal as it is written. -/
  | literal (text : String)
  | bool (value : Bool)
  | path (p : Path)
  /-- A path to a member of a type between angle brackets. -/
  | memberPath (p : MemberPath)
  | unary (op : UnaryOp) (operand : Expr)
  | borrow (kind : Borrow) (operand : Expr)
  | binary (op : BinaryOp) (left right : Expr)
  | assign (target value : Expr)
  | cast (operand : Expr) (type : List Tree)
  | range (low : Option Expr) (closed : Bool) (high : Option Expr)
  | question (operand : Expr)
  | awaited (operand : Expr)
  | field (operand : Expr) (member : Member)
  | methodCall (receiver : Expr) (method : Segment) (arguments : List Expr) (trailing : Bool)
  | call (function : Expr) (arguments : List Expr) (trailing : Bool)
  | index (operand place : Expr)
  | array (items : List Expr) (trailing : Bool)
  | repeated (item count : Expr)
  | tuple (items : List Expr) (trailing : Bool)
  | paren (inner : Expr)
  | group (inner : Expr)
  | invocation (name : Path) (d : Delimiter) (body : List Tree)
  /-- A closure: the head is all in front of its body. -/
  | closure (head : List Tree) (body : Expr)
  | block (statements : List Statement)
  | branch (condition : Expr) (positive : List Statement) (negative : Option Expr)
  /-- The fields of a record, and whether two dots end them, with the record that gives the other fields. -/
  | record (name : List Tree) (fields : List FieldValue) (trailing : Bool) (dots : Bool) (base : Option Expr)
  | placeholder
  | attributed (attributes : List Attribute) (e : Expr)
  /-- What a keyword begins: a loop, a match, a marked block, or what leaves all of these. A block form ends a
  statement. -/
  | keyword (blockForm : Bool) (tokens : List Tree)

inductive Statement where
  | empty
  /-- An attribute of the block that the statement begins. -/
  | note (a : Attribute)
  /-- The tokens in front of the equals sign, the value, and what is done if it does not match. -/
  | binding (head : List Tree) (value : Option Expr) (otherwise : List Tree)
  /-- What the block declares, as tokens. -/
  | item (tokens : List Tree)
  | expr (e : Expr) (semicolon : Bool)

inductive FieldValue where
  | mk (attributes : List Attribute) (member : Member) (value : Option Expr)

end

def Expr.isRange : Expr → Bool
  | range .. => true
  | attributed _ e => e.isRange
  | _ => false

mutual

def Expr.trees : Expr → List Tree
  | .literal text => [.literal text]
  | .bool value => [.word (if value then "true" else "false")]
  | .path p => p.trees
  | .memberPath p => p.trees
  | .unary op e => Tree.op op.text ++ e.trees
  | .borrow kind e => kind.trees ++ e.trees
  | .binary op l r => l.trees ++ Tree.op op.text ++ r.trees
  | .assign target value => target.trees ++ Tree.op "=" ++ value.trees
  | .cast e type => e.trees ++ .word "as" :: type
  | .range low closed high => Expr.treesOption low ++ Tree.op (rangeText closed) ++ Expr.treesOption high
  | .question e => e.trees ++ Tree.op "?"
  | .awaited e => e.trees ++ Tree.op "." ++ [.word "await"]
  | .field e member => e.trees ++ Tree.op "." ++ [member.tree]
  | .methodCall e method arguments trailing =>
    e.trees ++ Tree.op "." ++ method.trees ++ [Tree.paren (Tree.commas (Expr.treesEach arguments) trailing)]
  | .call f arguments trailing => f.trees ++ [Tree.paren (Tree.commas (Expr.treesEach arguments) trailing)]
  | .index e place => e.trees ++ [Tree.bracketed place.trees]
  | .array items trailing => [Tree.bracketed (Tree.commas (Expr.treesEach items) trailing)]
  | .repeated item count => [Tree.bracketed (item.trees ++ Tree.op ";" ++ count.trees)]
  | .tuple items trailing => [Tree.paren (Tree.commas (Expr.treesEach items) trailing)]
  | .paren e => [Tree.paren e.trees]
  | .group e => [Tree.group .invisible e.trees]
  | .invocation name d body => name.trees ++ Tree.op "!" ++ [.group d body]
  | .closure head body => head ++ body.trees
  | .block statements => [Tree.braced (Statement.treesEach statements)]
  | .branch condition positive negative =>
    .word "if" :: condition.trees ++ Tree.braced (Statement.treesEach positive) :: Expr.treesElse negative
  | .record name fields trailing dots base =>
    name ++ [Tree.braced (Tree.commas (FieldValue.treesEach fields) trailing
      ++ (if dots then Tree.op ".." else []) ++ Expr.treesOption base)]
  | .placeholder => [.word "_"]
  | .attributed attributes e => Attribute.treesOf attributes ++ e.trees
  | .keyword _ tokens => tokens

def Expr.treesOption : Option Expr → List Tree
  | none => []
  | some e => e.trees

/-- The part of a branch that is taken otherwise. -/
def Expr.treesElse : Option Expr → List Tree
  | none => []
  | some e => .word "else" :: e.trees

def Expr.treesEach : List Expr → List (List Tree)
  | [] => []
  | e :: es => e.trees :: Expr.treesEach es

def Statement.trees : Statement → List Tree
  | .empty => Tree.op ";"
  | .note a => a.trees
  | .binding head value otherwise => head ++ Expr.treesValue value ++ otherwise ++ Tree.op ";"
  | .item tokens => tokens
  | .expr e semicolon => e.trees ++ if semicolon then Tree.op ";" else []

/-- The value of a binding. -/
def Expr.treesValue : Option Expr → List Tree
  | none => []
  | some e => Tree.op "=" ++ e.trees

def Statement.treesEach : List Statement → List Tree
  | [] => []
  | s :: ss => s.trees ++ Statement.treesEach ss

/-- A field without a value has that of the variable of its name. -/
def FieldValue.trees : FieldValue → List Tree
  | .mk attributes member value => Attribute.treesOf attributes ++ member.tree :: Expr.treesColon value

def Expr.treesColon : Option Expr → List Tree
  | none => []
  | some e => Tree.op ":" ++ e.trees

def FieldValue.treesEach : List FieldValue → List (List Tree)
  | [] => []
  | f :: fs => f.trees :: FieldValue.treesEach fs

end

namespace Expr

/-- The text of an expression. -/
def text (e : Expr) : String := Tree.text e.trees

/-- The expression without attributes in front of it. -/
def bare : Expr → Expr
  | attributed _ e => e
  | e => e

def isComparison : Expr → Bool
  | binary (.comparison _) .. => true
  | _ => false

/-- A block, a branch, or another form that ends in a block. -/
def isBlockForm : Expr → Bool
  | block _ | branch .. => true
  | keyword blockForm _ => blockForm
  | attributed _ e => e.isBlockForm
  | _ => false

/-- An expression that ends a statement without a semicolon. -/
def endsStatement : Expr → Bool
  | invocation _ d _ => d = .brace
  | attributed _ e => e.endsStatement
  | e => e.isBlockForm

/-- The expression without groups around it. -/
def ungrouped : Expr → Expr
  | group e | attributed _ e => e.ungrouped
  | e => e

end Expr

end StoredProperty.Source
