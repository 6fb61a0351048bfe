import StoredProperty.Source.Expr
import StoredProperty.Source.Reader

/-!
# Connectives

What joins an operand to what follows it: binary operators, assignments, ranges and casts. Each has a level; the higher
it is, the more tightly the connective binds.
-/

namespace StoredProperty.Source

def Arithmetic.level : Arithmetic → Nat
  | .bitOr => 6
  | .bitXor => 7
  | .bitAnd => 8
  | .shiftLeft | .shiftRight => 9
  | .add | .subtract => 10
  | .multiply | .divide | .remainder => 11

inductive Connective where
  | binary (op : BinaryOp)
  | assign
  | range
  | cast
  deriving DecidableEq

namespace Connective

def lowest : Nat := 0

def assignLevel : Nat := 1

def rangeLevel : Nat := 2

def comparisonLevel : Nat := 5

def binaryLevel : BinaryOp → Nat
  | .update _ => assignLevel
  | .or => 3
  | .and => 4
  | .comparison _ => comparisonLevel
  | .arithmetic op => op.level

def level : Connective → Nat
  | binary op => binaryLevel op
  | assign => assignLevel
  | range => rangeLevel
  | cast => 12

/-- The level of a right operand: assignments group to the right, all others to the left. -/
def rightLevel (level : Nat) : Nat := if level = assignLevel then level else level + 1

/-- The operators, each in front of those that begin it. -/
def operators : List BinaryOp :=
  [.add, .subtract, .multiply, .divide, .remainder, .bitXor, .bitAnd, .bitOr, .shiftLeft, .shiftRight].map .update
    ++ [.and, .or, .arithmetic .shiftLeft, .arithmetic .shiftRight]
    ++ [.equal, .lessOrEqual, .notEqual, .greaterOrEqual].map .comparison
    ++ [.add, .subtract, .multiply, .divide, .remainder, .bitXor, .bitAnd, .bitOr].map .arithmetic
    ++ [.less, .greater].map .comparison

def binary? (ts : List Tree) : Option (BinaryOp × List Tree) :=
  operators.findSome? fun op => (Tokens.op? op.text ts).map (op, ·)

/-- A connective at the front, and the tokens behind it; the signs of a range are left. -/
def read? (ts : List Tree) : Option (Connective × List Tree) :=
  match binary? ts with
  | some (op, rest) => some (binary op, rest)
  | none =>
    if Tokens.hasOp "=>" ts then none
    else if let some rest := Tokens.op? "=" ts then some (assign, rest)
    else if Tokens.hasOp ".." ts then some (range, ts)
    else (Tokens.word? "as" ts).map (cast, ·)

/-- Whether a range with two dots has no end. -/
def endsRange (records : Bool) (ts : List Tree) : Bool :=
  ts.isEmpty || Tokens.hasPoint ts || (!records && Tokens.hasGroup .brace ts)
    || [",", ";", "?", "=>", "=", "+", "/", "%", "^", ">", "<=", "!=", "-=", "*=", "&=", "|=", "<<="].any
        (Tokens.hasOp · ts)
    || Tokens.hasWord "as" ts

/-- Whether a value follows a word that leaves what is around it. -/
def startsValue (ts : List Tree) : Bool :=
  let op (text : String) (except : List String) : Bool := Tokens.hasOp text ts && !except.any (Tokens.hasOp · ts)
  (Tokens.hasIdent ts && !Tokens.hasWord "as" ts)
    || [Delimiter.parenthesis, .bracket, .brace].any (Tokens.hasGroup · ts) || Tokens.hasConstant ts
    || op "!" ["!="] || op "-" ["-=", "->"] || op "*" ["*="] || op "|" ["|="] || op "&" ["&="] || op ".." []
    || op "<" ["<=", "<<="] || op "::" [] || Tokens.hasLifetime ts || op "#" []

end Connective

end StoredProperty.Source
