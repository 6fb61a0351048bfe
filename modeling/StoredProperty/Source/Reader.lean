import StoredProperty.Source.Tree

/-!
# Reading token trees

A reader takes tokens from the front of its input, or fails with a `SyntaxError`. What looks for an identifier, a
punctuation character, a literal or a group looks into invisible groups: `uncover` brings the first visible token to
the front. The characters of an operator have to be joined, except that the last may also be joined to what follows.

Tokens that are left in a group are an error only when all else has been read: the input remembers the first such
group, and `Reader.all` looks at it last. What is kept exactly as it was written is cut out of the input by
`Reader.withSource`.
-/

namespace StoredProperty.Source

/-- What a token should have been. -/
inductive Expectation where
  | expression
  | commaOrSemicolon
  | member
  | integer
  | unsuffixedInteger
  /-- A name, in whose place something else stands. -/
  | name (instead : String)
  | lifetime
  | type
  /-- A type behind the lifetimes that it is for all of. -/
  | typeForAll
  | pointee
  | pattern
  /-- The end of a range of patterns. -/
  | bound
  | upperBound
  /-- What is taken where a condition does not hold. -/
  | otherwise
  | labeled
  | segment
  | delimiter
  /-- The new name of what is imported. -/
  | newName
  | token (text : String)
  | group (d : Delimiter)
  /-- One of several things. -/
  | choice (texts : List String)
  deriving DecidableEq

namespace Expectation

def delimiterText : Delimiter → String
  | .parenthesis => "parentheses"
  | .bracket => "square brackets"
  | .brace => "curly braces"
  | .invisible => "invisible group"

def text : Expectation → String
  | expression => "an expression"
  | commaOrSemicolon => "`,` or `;`"
  | member => "identifier or integer"
  | integer => "integer literal"
  | unsuffixedInteger => "unsuffixed integer"
  | name instead => "identifier" ++ instead
  | lifetime => "lifetime"
  | type =>
    "one of: `for`, parentheses, `fn`, `unsafe`, `extern`, identifier, `::`, `<`, `dyn`, square brackets, `*`, `&`, "
      ++ "`!`, `impl`, `_`, lifetime"
  | typeForAll => "one of: identifier, `fn`, `unsafe`, `extern`, `super`, `self`, `Self`, `crate`"
  | pointee => "`const` or `mut`"
  | pattern =>
    "one of: identifier, `::`, `<`, `_`, literal, `const`, `ref`, `mut`, `&`, parentheses, square brackets, `..`, "
      ++ "`const`"
  | bound => "one of: literal, identifier, `::`, `<`, `self`, `Self`, `super`, `crate`, `const`"
  | upperBound => "range upper bound"
  | otherwise => "`if` or curly braces"
  | labeled => "loop or block expression"
  | segment => "path segment after `::`"
  | delimiter => "delimiter"
  | newName => "identifier or underscore"
  | token text => "`" ++ text ++ "`"
  | group d => delimiterText d
  | choice texts =>
    match texts with
    | [one] => one
    | [one, other] => one ++ " or " ++ other
    | texts => "one of: " ++ ", ".intercalate texts

end Expectation

/-- What a cast cannot be followed by. -/
inductive CastTail where
  | methodCall | fieldAccess | awaiting | question | index | call
  deriving DecidableEq

def CastTail.text : CastTail → String
  | methodCall => "a method call"
  | fieldAccess => "a field access"
  | awaiting => "`.await`"
  | question => "`?`"
  | index => "indexing"
  | call => "a function call"

/-- How tokens that are left in a group are told of. -/
def leftoverText : Delimiter → String
  | .parenthesis => "unexpected token, expected `)`"
  | .bracket => "unexpected token, expected `]`"
  | .brace => "unexpected token, expected `\x7d`"
  | .invisible => "unexpected token"

inductive SyntaxError where
  /-- Another token stands in the place of something, or none. -/
  | expected (e : Expectation) (atEnd : Bool)
  /-- Tokens are left in a group behind what was read. -/
  | leftover (d : Delimiter)
  /-- No constant stands where there has to be one. -/
  | noConstant (atEnd : Bool)
  | noSemicolon
  | chainedComparison
  | continuedCast (tail : CastTail)
  | indexTooLarge
  | indexNegative
  /-- The type of an object, or one that a function hides, has lifetimes for its only bounds. -/
  | noTrait (object : Bool)
  /-- A bound that may not hold is for all of some lifetimes. -/
  | optionalForAll
  | parametersAfterWhere
  /-- A constant bound, perhaps in brackets, where none may stand. -/
  | constantBound (bracketed : Bool)
  /-- A bound on what is captured, where none may stand. -/
  | captureBound
  /-- A method's receiver behind other parameters, of which one may be a receiver too. -/
  | lateReceiver (second : Bool)
  | negativeInherent
  | attributeInAttribute
  | openRangeInSlice
  | labeledValue
  /-- The text has no tokens. -/
  | noTokens
  deriving DecidableEq

namespace SyntaxError

def endText (atEnd : Bool) : String := if atEnd then "unexpected end of input" else "unexpected token"

def message : SyntaxError → String
  | expected e atEnd => (if atEnd then endText true ++ ", " else "") ++ "expected " ++ e.text
  | leftover d => leftoverText d
  | noConstant atEnd => endText atEnd
  | noSemicolon => "unexpected token, expected `;`"
  | chainedComparison => "comparison operators cannot be chained"
  | continuedCast tail => "casts cannot be followed by " ++ tail.text
  | indexTooLarge => "number too large to fit in target type"
  | indexNegative => "invalid digit found in string"
  | noTrait object =>
    if object then "at least one trait is required for an object type" else "at least one trait must be specified"
  | optionalForAll => "`for<...>` binder not allowed with `?` trait polarity modifier"
  | parametersAfterWhere => "generic parameters on `where` clauses are reserved for future use"
  | constantBound bracketed => (if bracketed then "`[const]`" else "`const`") ++ " is not allowed here"
  | captureBound => "`use<...>` precise capturing syntax is not allowed here"
  | lateReceiver second => if second then "unexpected second method receiver" else "unexpected method receiver"
  | negativeInherent => "inherent impls cannot be negative"
  | attributeInAttribute => "unexpected attribute inside of attribute"
  | openRangeInSlice => "range pattern is not allowed unparenthesized inside slice pattern"
  | labeledValue => "parentheses required"
  | noTokens => "cannot parse string into token stream"

end SyntaxError

/-- The tokens that are still to be read, and the first group so far in which tokens were left. -/
structure Input where
  rest : List Tree
  left : Option Delimiter

abbrev Reader := StateT Input (Except SyntaxError)

/-! ## Looking ahead -/

mutual

/-- What a tree shows: itself, or what is in an invisible group, from the first visible token on. -/
def Tree.shown : Tree → List Tree
  | .group .invisible body => uncover body
  | t => [t]

/-- Opens invisible groups at the front until a visible token stands there. -/
def uncover : List Tree → List Tree
  | [] => []
  | t :: rest =>
    match t.shown with
    | [] => uncover rest
    | visible => visible ++ rest

end

/-- The group of the first visible token, where `d` is the group around all of them. -/
def unread (d : Delimiter) : List Tree → Option Delimiter
  | [] => none
  | .group .invisible body :: rest => (unread .invisible body).or (unread d rest)
  | _ :: _ => some d

mutual

/-- The number of visible tokens. -/
def Tree.weight : Tree → Nat
  | .group .invisible body => weights body
  | .group _ body => weights body + 1
  | _ => 1

def weights : List Tree → Nat
  | [] => 0
  | t :: rest => t.weight + weights rest

end

mutual

/-- A tree in front of a place that has `left` visible tokens behind it, all of them in the tree. An invisible group
around the place is opened. -/
def Tree.cut (left : Nat) : Tree → List Tree
  | .group .invisible body => cutBefore left body
  | t => [t]

/-- The trees in front of a place that has `left` visible tokens behind it. -/
def cutBefore (left : Nat) : List Tree → List Tree
  | [] => []
  | t :: rest =>
    if weights (t :: rest) ≤ left then []
    else if left ≤ weights rest then t :: cutBefore left rest
    else t.cut (left - weights rest)

end

/-- The last token is not joined to what follows. -/
def settle : List Tree → List Tree
  | [] => []
  | [.punct c _] => [.punct c false]
  | t :: rest => t :: settle rest

/-- The words that cannot be names unless they are raw. -/
def keywords : List String :=
  ["_", "abstract", "as", "async", "await", "become", "box", "break", "const", "continue", "crate", "do", "dyn", "else",
   "enum", "extern", "false", "final", "fn", "for", "if", "impl", "in", "let", "loop", "macro", "match", "mod", "move",
   "mut", "override", "priv", "pub", "ref", "return", "Self", "self", "static", "struct", "super", "trait", "true",
   "try", "type", "typeof", "unsafe", "unsized", "use", "virtual", "where", "while", "yield"]

namespace Tokens

/-- Any identifier at the front, keywords too. -/
def ident? (ts : List Tree) : Option (Ident × List Tree) :=
  match uncover ts with
  | .ident i :: rest => some (i, rest)
  | _ => none

def isName (i : Ident) : Bool := i.raw || i.name ∉ keywords

def name? (ts : List Tree) : Option (Ident × List Tree) :=
  (ident? ts).bind fun (i, rest) => if isName i then some (i, rest) else none

/-- The rest behind a certain word that is not raw. -/
def word? (word : String) (ts : List Tree) : Option (List Tree) :=
  (ident? ts).bind fun (i, rest) => if i = .plain word then some rest else none

/-- An apostrophe is part of a lifetime, and no punctuation. -/
def punct? (ts : List Tree) : Option (Char × Bool × List Tree) :=
  match uncover ts with
  | .punct c joint :: rest => if c = '\'' then none else some (c, joint, rest)
  | _ => none

/-- The rest behind the characters of an operator. -/
def opChars? : List Char → List Tree → Option (List Tree)
  | [], ts => some ts
  | c :: cs, ts =>
    match punct? ts with
    | some (d, joint, rest) => if d = c && (joint || cs.isEmpty) then opChars? cs rest else none
    | none => none

def op? (op : String) (ts : List Tree) : Option (List Tree) := opChars? op.toList ts

def lifetime? (ts : List Tree) : Option (Ident × List Tree) :=
  match uncover ts with
  | .punct '\'' true :: rest => ident? rest
  | _ => none

/-- The text of a literal. -/
def literal? (ts : List Tree) : Option (String × List Tree) :=
  match uncover ts with
  | .literal text :: rest => some (text, rest)
  | _ => none

/-- The body of a group with visible delimiters. -/
def group? (d : Delimiter) (ts : List Tree) : Option (List Tree × List Tree) :=
  match uncover ts with
  | .group d' body :: rest => if d' = d then some (body, rest) else none
  | _ => none

/-- The delimiters and the body of a group with visible delimiters that stands right at the front. -/
def delimited? : List Tree → Option ((Delimiter × List Tree) × List Tree)
  | .group d body :: rest => if d = .invisible then none else some ((d, body), rest)
  | _ => none

/-- The body of an invisible group that stands right at the front. -/
def invisible? : List Tree → Option (List Tree × List Tree)
  | .group .invisible body :: rest => some (body, rest)
  | _ => none

/-- The rest behind one visible token; a lifetime is one. -/
def skip? (ts : List Tree) : Option (List Tree) :=
  match lifetime? ts, uncover ts with
  | some (_, rest), _ => some rest
  | none, _ :: rest => some rest
  | none, [] => none

def isNumber (text : String) : Bool := text.toList.head?.any Char.isDigit

/-- A literal, a number with a minus sign, or a boolean. -/
def constant? (ts : List Tree) : Option (List Tree × List Tree) :=
  match literal? ts, punct? ts with
  | some (text, rest), _ => some ([.literal text], rest)
  | none, some ('-', _, rest) =>
    (literal? rest).bind fun (text, rest) =>
      if isNumber text then some ([.punct '-' false, .literal text], rest) else none
  | none, _ =>
    (ident? ts).bind fun (i, rest) =>
      if i = .plain "true" || i = .plain "false" then some ([.ident i], rest) else none

def hasOp (op : String) (ts : List Tree) : Bool := (op? op ts).isSome

def hasWord (word : String) (ts : List Tree) : Bool := (word? word ts).isSome

def hasAnyWord (words : List String) (ts : List Tree) : Bool := words.any (hasWord · ts)

def hasGroup (d : Delimiter) (ts : List Tree) : Bool := (group? d ts).isSome

def hasName (ts : List Tree) : Bool := (name? ts).isSome

def hasIdent (ts : List Tree) : Bool := (ident? ts).isSome

def hasLifetime (ts : List Tree) : Bool := (lifetime? ts).isSome

def hasConstant (ts : List Tree) : Bool := (constant? ts).isSome

def hasInvisible (ts : List Tree) : Bool := (invisible? ts).isSome

/-- A single point, and no range. -/
def hasPoint (ts : List Tree) : Bool := hasOp "." ts && !hasOp ".." ts

/-- A colon that is not the first of two. -/
def hasColon (ts : List Tree) : Bool := hasOp ":" ts && !hasOp "::" ts

/-- An exclamation mark behind the name of an invocation. -/
def hasBang (ts : List Tree) : Bool := hasOp "!" ts && !hasOp "!=" ts

/-- The tokens behind the first visible one. -/
def second (p : List Tree → Bool) (ts : List Tree) : Bool := (skip? ts).any p

/-- The tokens behind the first two visible ones. -/
def third (p : List Tree → Bool) (ts : List Tree) : Bool := second (second p) ts

/-- What stands where a name should, for an error. -/
def instead (ts : List Tree) : String :=
  match ident? ts with
  | some (i, _) => if i.name = "_" then ", found underscore" else ", found keyword `" ++ i.name ++ "`"
  | none => ""

end Tokens

namespace Reader

variable {α β : Type}

def fail (e : SyntaxError) : Reader α := fun _ => .error e

def expected (e : Expectation) : Reader α := fun i => .error (.expected e i.rest.isEmpty)

def peek (p : List Tree → α) : Reader α := fun i => .ok (p i.rest, i)

/-- Goes on with other tokens. -/
def goOn (rest : List Tree) : Reader Unit := fun i => .ok ((), { i with rest })

/-- Takes what is at the front, which has to be there. -/
def take (e : Expectation) (front? : List Tree → Option (α × List Tree)) : Reader α := fun i =>
  match front? i.rest with
  | some (a, rest) => .ok (a, { i with rest })
  | none => expected e i

/-- Takes what is at the front, if it is there. -/
def option (front? : List Tree → Option (α × List Tree)) : Reader (Option α) := fun i =>
  match front? i.rest with
  | some (a, rest) => .ok (some a, { i with rest })
  | none => .ok (none, i)

def ifOp (op : String) : Reader Bool := do return (← option fun ts => (Tokens.op? op ts).map ((), ·)).isSome

def ifWord (word : String) : Reader Bool := do return (← option fun ts => (Tokens.word? word ts).map ((), ·)).isSome

/-- An operator has to be there; the end of the input is an error like any other. -/
def op (op : String) : Reader Unit := do
  if !(← ifOp op) then fail (.expected (.token op) false)

def word (word : String) : Reader Unit := take (.token word) fun ts => (Tokens.word? word ts).map ((), ·)

def name : Reader Ident := do take (.name (← peek Tokens.instead)) Tokens.name?

/-- Any word, a keyword too. -/
def anyWord : Reader Ident := take (.name "") Tokens.ident?

def lifetime : Reader Ident := take .lifetime Tokens.lifetime?

def group (d : Delimiter) : Reader (List Tree) := take (.group d) (Tokens.group? d)

def delimited : Reader (Delimiter × List Tree) := take .delimiter Tokens.delimited?

/-- Reads a list of tokens up to its end. -/
def all (r : Reader α) (ts : List Tree) : Except SyntaxError α :=
  match r ⟨ts, none⟩ with
  | .error e => .error e
  | .ok (a, i) =>
    match i.left.or (unread .invisible i.rest) with
    | some d => .error (.leftover d)
    | none => .ok a

/-- Reads the body of a group and goes on behind the group. Tokens that are left in the body are remembered. -/
def within (d : Delimiter) (body : List Tree) (r : Reader α) : Reader α := fun i =>
  match r ⟨body, i.left⟩ with
  | .error e => .error e
  | .ok (a, inner) => .ok (a, { i with left := inner.left.or (unread d inner.rest) })

/-- Reads the body of the group at the front. -/
def inside (d : Delimiter) (r : Reader α) : Reader α := do within d (← group d) r

/-- What is read together with the tokens that it is read from, as they were written. What follows is not theirs, nor
what joins them to it. -/
def withSource (r : Reader α) : Reader (α × List Tree) := fun i =>
  (r i).map fun (a, after) => ((a, settle (cutBefore (weights after.rest) i.rest)), after)

/-- Reads what may not be there; if it is not, nothing is taken. -/
def attempt (r : Reader α) : Reader (Option α) := fun i =>
  match r i with
  | .ok (a, after) => .ok (some a, after)
  | .error _ => .ok (none, i)

def atEnd : Reader Bool := peek List.isEmpty

/-- A loop that takes at least one token each time has no more rounds than there are tokens. -/
def rounds : Reader Nat := peek fun ts => Tree.sizes ts + 1

/-- No rounds are left; it does not come to that. -/
def exhausted : Reader α := fail (.leftover .invisible)

/-! ## Lists -/

/-- An item and more of them with commas between, and whether a comma ends them, up to where `stop` holds. -/
def commasLoop (stop : List Tree → Bool) (r : Reader α) : Nat → Reader (α × List α × Bool)
  | 0 => exhausted
  | n + 1 => do
    let item ← r
    if ← peek stop then return (item, [], false)
    op ","
    if ← peek stop then return (item, [], true)
    let (next, items, trailing) ← commasLoop stop r n
    return (item, next :: items, trailing)

/-- Items with commas between them, up to where `stop` holds. -/
def commasUntil (stop : List Tree → Bool) (r : Reader α) : Reader (List α × Bool) := do
  if ← peek stop then return ([], false)
  let (item, items, trailing) ← commasLoop stop r (← rounds)
  return (item :: items, trailing)

/-- Items with commas between them, up to the end. -/
def commas (r : Reader α) : Reader (List α × Bool) := commasUntil List.isEmpty r

/-- Items as long as `more` holds. -/
def whileLoop (more : List Tree → Bool) (r : Reader α) : Nat → Reader (List α)
  | 0 => exhausted
  | n + 1 => do
    if !(← peek more) then return []
    return (← r) :: (← whileLoop more r n)

def manyWhile (more : List Tree → Bool) (r : Reader α) : Reader (List α) := do whileLoop more r (← rounds)

end Reader

end StoredProperty.Source
