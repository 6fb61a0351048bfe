import StoredProperty.Source.Expr.Connective
import StoredProperty.Source.Expr.Member
import StoredProperty.Source.Item
import StoredProperty.Source.Lexeme
import StoredProperty.Source.Pattern

/-!
# Reading expressions

An expression is an operand and what connectives add to it. A reader for a level takes nothing that binds less tightly.
A record's braces are not read where a block may follow. The readers for the parts of an expression have the readers
for nested expressions and for blocks as parameters; each nested expression stands behind at least one token, so that
there are no more of them inside each other than there are tokens.
-/

namespace StoredProperty.Source.ExprReader

open Reader

/-! ## Parts of expressions -/

section

variable (nested : Nat → Bool → Reader Expr)

def expression : Reader Expr := nested Connective.lowest true

/-- An expression that a block follows. -/
def condition : Reader Expr := nested Connective.lowest false

def tokens : Reader (List Tree) := Expr.trees <$> expression nested

def typeTokens : Reader (List Tree) := TypeForm.tokens (tokens nested)

def arguments : Reader (List Tree) := TypeForm.arguments (tokens nested) (TypeForm.read (tokens nested))

def memberPath : Reader MemberPath := TypeForm.readMemberPath (tokens nested) (TypeForm.read (tokens nested)) true

/-- Attributes in front of something; an invisible group hides those in it. -/
def attributes : Reader (List Attribute) :=
  manyWhile (fun ts => !Tokens.hasInvisible ts && Tokens.hasOp "#" ts) (Attribute.read (tokens nested))

/-- Expressions between commas in parentheses. -/
def operands : Reader (List Expr × Bool) := inside .parenthesis (commas (expression nested))

/-- A pair of parentheses around one expression without a comma, or a tuple. -/
def parenthesized : Reader Expr := do
  match ← operands nested with
  | ([e], false) => return .paren e
  | (items, trailing) => return .tuple items trailing

def array : Reader Expr :=
  inside .bracket do
    if ← atEnd then return .array [] false
    let first ← expression nested
    if ← atEnd then return .array [first] false
    if ← ifOp ";" then return .repeated first (← expression nested)
    if !(← ifOp ",") then expected .commaOrSemicolon
    let (items, trailing) ← commas (expression nested)
    return .array (first :: items) (trailing || items.isEmpty)

/-! ### Records -/

/-- A field with its value; one that is a number has to have a value. -/
def fieldValue : Reader FieldValue := do
  let attributes ← Attribute.readEach (tokens nested)
  let member ← Member.read
  let shorthand := match member with
    | .named _ => true
    | .index _ => false
  if shorthand && !(← peek (Tokens.hasOp ":")) then return .mk attributes member none
  op ":"
  return .mk attributes member (some (← expression nested))

/-- The fields up to two dots or the end. -/
def record (name : List Tree) : Reader Expr :=
  inside .brace do
    let stop (ts : List Tree) : Bool := ts.isEmpty || Tokens.hasOp ".." ts
    let (fields, trailing) ← commasUntil stop (fieldValue nested)
    if ← atEnd then return .record name fields trailing false none
    if !fields.isEmpty && !trailing then op ","
    op ".."
    if ← atEnd then return .record name fields trailing true none
    return .record name fields trailing true (some (← expression nested))

/-- What a path begins: an invocation, a record where one may stand, or nothing more. -/
def behindPath (records : Bool) (p : MemberPath) : Reader Expr := do
  if !p.hasOwner && p.path.isPlain && (← peek Tokens.hasBang) then
    op "!"
    let (d, body) ← delimited
    return .invocation p.path d body
  if records && (← peek (Tokens.hasGroup .brace)) then record nested p.trees
  else return if p.hasOwner then .memberPath p else .path p.path

/-- What an invisible group holds; a path may go on behind it. -/
def substituted (records : Bool) (body : List Tree) : Reader Expr := do
  let e ← within .invisible body (expression nested)
  let p? := match e with
    | .path p => some (MemberPath.ofPath p)
    | .memberPath p => some p
    | _ => none
  match p? with
  | none => return .group e
  | some p =>
    let more ← Path.more true (arguments nested)
    match ← behindPath nested records (p.append more) with
    | .path q => return if more.isEmpty then .group (.path q) else .path q
    | .memberPath q => return if more.isEmpty then .group (.memberPath q) else .memberPath q
    | e => return e

/-! ### What follows an operand -/

/-- What follows a point. -/
def behindPoint (e : Expr) : Reader Expr := do
  if ← ifWord "await" then return .awaited e
  match ← Member.read with
  | .index n => return .field e (.index n)
  | .named name =>
    let generics ← if ← peek (Tokens.hasOp "::") then Path.turbofish (arguments nested) else pure []
    if generics.isEmpty && !(← peek (Tokens.hasGroup .parenthesis)) then return .field e (.named name)
    let (items, trailing) ← operands nested
    return .methodCall e ⟨name, generics⟩ items trailing

def fieldsOf (e : Expr) (members : List Nat) : Expr := members.foldl (fun e n => .field e (.index n)) e

def point (e : Expr) : Reader Expr := do
  op "."
  match ← option Member.float? with
  | none => behindPoint nested e
  | some (negative, digits) =>
    let (members, dotted) ← Member.floatNumbers negative digits
    if dotted then behindPoint nested (fieldsOf e members) else return fieldsOf e members

/-- Calls, members, indices and question marks behind an operand. -/
def trailLoop : Nat → Expr → Reader Expr
  | 0, _ => exhausted
  | n + 1, e => do
    if ← peek (Tokens.hasGroup .parenthesis) then
      let (items, trailing) ← operands nested
      trailLoop n (.call e items trailing)
    else if !e.isRange && (← peek Tokens.hasPoint) then trailLoop n (← point nested e)
    else if ← peek (Tokens.hasGroup .bracket) then
      let place ← inside .bracket (expression nested)
      trailLoop n (.index e place)
    else if e.isRange then return e
    else if ← ifOp "?" then trailLoop n (.question e)
    else return e

def trail (e : Expr) : Reader Expr := do trailLoop nested (← rounds) e

/-! ### Connectives -/

/-- What stands behind a cast and must not. -/
def castTail? (ts : List Tree) : Option CastTail :=
  if Tokens.hasPoint ts then
    if Tokens.second (Tokens.hasWord "await") ts then some .awaiting
    else if Tokens.second Tokens.hasName ts
        && Tokens.third (fun ts => Tokens.hasGroup .parenthesis ts || Tokens.hasOp "::" ts) ts then some .methodCall
    else some .fieldAccess
  else if Tokens.hasOp "?" ts then some .question
  else if Tokens.hasGroup .bracket ts then some .index
  else if Tokens.hasGroup .parenthesis ts then some .call
  else none

def cast (e : Expr) : Reader Expr := do
  let type ← TypeForm.read (tokens nested) false false
  match ← peek castTail? with
  | some tail => fail (.continuedCast tail)
  | none => return .cast e type.trees

/-- The signs of a range and its end. -/
def rangeFrom (records : Bool) (low : Option Expr) : Reader Expr := do
  if ← peek (Tokens.hasOp "...") then fail (.expected (.token "..=") false)
  let closed ← ifOp "..="
  if !closed then op ".."
  if !closed && (← peek (Connective.endsRange records)) then return .range low false none
  return .range low closed (some (← nested (Connective.rangeLevel + 1) records))

/-- Adds a connective and what follows it to an operand. -/
def join (records : Bool) (e : Expr) (rest : List Tree) : Connective → Reader Expr
  | .binary op => do
    let level := Connective.binaryLevel op
    if e.isComparison && level = Connective.comparisonLevel then fail .chainedComparison
    goOn rest
    return .binary op e (← nested (Connective.rightLevel level) records)
  | .assign => do
    goOn rest
    return .assign e (← nested Connective.assignLevel records)
  | .range => rangeFrom nested records (some e)
  | .cast => do
    goOn rest
    cast nested e

/-- Adds all connectives of a level or a higher one. A range takes none on its right. -/
def climbLoop (records : Bool) (level : Nat) : Nat → Expr → Reader Expr
  | 0, _ => exhausted
  | n + 1, e => do
    if e.isRange then return e
    match ← peek Connective.read? with
    | some (c, rest) =>
      if c.level < level then return e else climbLoop records level n (← join nested records e rest c)
    | none => return e

def climb (records : Bool) (level : Nat) (e : Expr) : Reader Expr := do climbLoop nested records level (← rounds) e

end

/-- An expression behind attributes; a range gets parentheses. -/
def attributedBy (attributes : List Attribute) (e : Expr) : Expr :=
  if attributes.isEmpty then e else .attributed attributes (if e.isRange then .paren e else e)

section

variable (nested : Nat → Bool → Reader Expr) (block : Bool → Reader (List Statement))

/-- The tokens of a block that may have attributes inside. -/
def blockTokens : Reader (List Tree) := do return [Tree.braced (Statement.treesEach (← block true))]

/-- The tokens of a block that has no attributes inside. -/
def plainTokens : Reader (List Tree) := do return [Tree.braced (Statement.treesEach (← block false))]

def patternParts : Pattern.Parts where
  path := memberPath nested
  member := Member.readToken
  block := blockTokens block
  attributes := Attribute.readEach (tokens nested)

def pattern : Reader (List Tree) := Pattern.trees <$> Pattern.read (patternParts nested block)

def alternatives : Reader (List Tree) := Pattern.trees <$> Pattern.readAlternatives (patternParts nested block)

/-! ### Closures -/

def parameter : Reader (List Tree) := do
  let attributes ← Attribute.readEach (tokens nested)
  let binding := Attribute.treesOf attributes ++ (← pattern nested block)
  if !(← ifOp ":") then return binding
  return binding ++ Tree.op ":" ++ (← typeTokens nested)

/-- The parameters that a closure is for all of. -/
def startsForAll (ts : List Tree) : Bool := (Tokens.word? "for" ts).any Generics.opens

def startsClosure (ts : List Tree) : Bool :=
  Tokens.hasOp "|" ts || Tokens.hasAnyWord ["move", "static"] ts || startsForAll ts
    || (Tokens.hasWord "const" ts && !Tokens.second (Tokens.hasGroup .brace) ts)
    || (Tokens.hasWord "async" ts && Tokens.second (fun ts => Tokens.hasOp "|" ts || Tokens.hasWord "move" ts) ts)

/-- A closure; one with a result type has a block for its body. -/
def closure (records : Bool) : Reader Expr := do
  let lifetimes ← TypeForm.forAll (tokens nested) (TypeForm.read (tokens nested))
  let words ← ["const", "static", "async", "move"].mapM TypeForm.optionalWord
  op "|"
  let (parameters, trailing) ← commasUntil (Tokens.hasOp "|") (parameter nested block)
  op "|"
  let head := lifetimes ++ words.flatten ++ Tree.op "|" ++ Tree.commas parameters trailing ++ Tree.op "|"
  if !(← ifOp "->") then return .closure head (← nested Connective.lowest records)
  let type ← typeTokens nested
  return .closure (head ++ Tree.op "->" ++ type) (.block (← block false))

/-! ### Forms that end in a block -/

/-- A branch; what is taken otherwise is a block or another branch. -/
def branchLoop : Nat → Reader Expr
  | 0 => exhausted
  | n + 1 => do
    word "if"
    let condition ← condition nested
    let positive ← block false
    if !(← ifWord "else") then return .branch condition positive none
    if ← peek (Tokens.hasWord "if") then return .branch condition positive (some (← branchLoop n))
    if !(← peek (Tokens.hasGroup .brace)) then expected .otherwise
    return .branch condition positive (some (.block (← block false)))

def loopTokens : Reader (List Tree) := do
  if ← ifWord "loop" then return .word "loop" :: (← blockTokens block)
  if ← ifWord "while" then return .word "while" :: (← condition nested).trees ++ (← blockTokens block)
  word "for"
  let each ← alternatives nested block
  word "in"
  return .word "for" :: each ++ .word "in" :: (← condition nested).trees ++ (← blockTokens block)

def startsLoop (ts : List Tree) : Bool :=
  Tokens.hasAnyWord ["loop", "while"] ts || (Tokens.hasWord "for" ts && !startsForAll ts)

/-- Words that a block follows at once. -/
def marks : List String := ["try", "const"]

def startsBlockForm (ts : List Tree) : Bool :=
  Tokens.hasGroup .brace ts || Tokens.hasAnyWord ["if", "match", "unsafe"] ts || startsLoop ts
    || (Tokens.hasAnyWord marks ts && Tokens.second (Tokens.hasGroup .brace) ts) || Tokens.hasLifetime ts

/-- An arm of a match; the comma behind it may be left out where its body ends in a block. -/
def armsLoop (body : Reader Expr) : Nat → Reader (List Tree)
  | 0 => exhausted
  | n + 1 => do
    if ← atEnd then return []
    let attributes := Attribute.treesOf (← Attribute.readEach (tokens nested))
    let pattern ← alternatives nested block
    let guard ← if ← ifWord "if" then do pure (.word "if" :: (← tokens nested)) else pure []
    op "=>"
    let e ← body
    let comma ← if e.isBlockForm || (← atEnd) then ifOp "," else do
      op ","
      pure true
    let comma := if comma then Tree.op "," else []
    return attributes ++ pattern ++ guard ++ Tree.op "=>" ++ e.trees ++ comma ++ (← armsLoop body n)

def matchTokens (body : Reader Expr) : Reader (List Tree) := do
  word "match"
  let e ← condition nested
  let arms ← inside .brace do
    let attributes ← Attribute.readInnerEach (tokens nested)
    return Attribute.treesOf attributes ++ (← armsLoop nested block body (← rounds))
  return .word "match" :: e.trees ++ [Tree.braced arms]

/-- A loop or a block behind a label. -/
def labeled : Reader (List Tree) := do
  let label := Tree.lifetime (← lifetime)
  op ":"
  if ← peek (Tokens.hasAnyWord ["loop", "while", "for"]) then
    return label ++ Tree.op ":" ++ (← loopTokens nested block)
  if ← peek (Tokens.hasGroup .brace) then return label ++ Tree.op ":" ++ (← blockTokens block)
  expected .labeled

def blockForm (body : Reader Expr) : Reader Expr := do
  if ← peek (Tokens.hasGroup .brace) then return .block (← block true)
  if ← peek (Tokens.hasWord "if") then branchLoop nested block (← rounds)
  else if ← peek (Tokens.hasWord "match") then return .keyword true (← matchTokens nested block body)
  else if ← peek startsLoop then return .keyword true (← loopTokens nested block)
  else if ← peek Tokens.hasLifetime then return .keyword true (← labeled nested block)
  else if ← ifWord "try" then return .keyword true (.word "try" :: (← plainTokens block))
  else
    let mark ← anyWord
    return .keyword true (.ident mark :: (← blockTokens block))

/-! ### Other keywords -/

def startsLater (ts : List Tree) : Bool :=
  Tokens.hasWord "async" ts
    && (Tokens.second (Tokens.hasGroup .brace) ts
      || (Tokens.second (Tokens.hasWord "move") ts && Tokens.third (Tokens.hasGroup .brace) ts))

/-- A block whose value comes later. -/
def later : Reader (List Tree) := do
  word "async"
  let moves ← TypeForm.optionalWord "move"
  return .word "async" :: moves ++ (← plainTokens block)

/-- A pattern that a value has to match, as a condition. -/
def matching (records : Bool) : Reader (List Tree) := do
  word "let"
  let pattern ← alternatives nested block
  op "="
  return .word "let" :: pattern ++ Tree.op "=" ++ (← nested (Connective.comparisonLevel + 1) records).trees

/-- The words that leave what is around them. -/
def leaving : List String := ["break", "continue", "return", "yield"]

/-- A word that leaves what is around it, perhaps up to a label and perhaps with a value. -/
def leave (word : String) (records : Bool) : Reader (List Tree) := do
  Reader.word word
  if word = "break" && (← peek fun ts => (Tokens.lifetime? ts).any (Tokens.hasOp ":" ·.2)) then
    let _ ← expression nested
    fail .labeledValue
  let labels := word = "break" || word = "continue"
  let label ← if labels then option Tokens.lifetime? else pure none
  let lead := .word word :: (label.map Tree.lifetime).getD []
  let hasValue ← peek fun ts =>
    word ≠ "continue" && Connective.startsValue ts && (word ≠ "break" || records || !Tokens.hasGroup .brace ts)
  if hasValue then return lead ++ (← tokens nested) else return lead

/-- A call that takes the place of the one around it, kept as it is written. -/
def replacement : Reader (List Tree) := do
  let (_, source) ← withSource do
    word "become"
    expression nested
  return source

def startsPrimitive (ts : List Tree) : Bool := Tokens.hasWord "builtin" ts && Tokens.second (Tokens.hasOp "#") ts

/-- What is built in, kept as it is written. -/
def primitive : Reader (List Tree) := do
  let (_, source) ← withSource do
    word "builtin"
    op "#"
    let _ ← name
    group .parenthesis
  return source

/-! ### Operands -/

def startsPath (ts : List Tree) : Bool :=
  Tokens.hasName ts || Tokens.hasOp "::" ts || Tokens.hasOp "<" ts
    || Tokens.hasAnyWord ["self", "Self", "super", "crate"] ts
    || (Tokens.hasWord "try" ts && Tokens.second (fun ts => Tokens.hasOp "!" ts || Tokens.hasOp "::" ts) ts)

/-- A literal, a number with its sign apart, or a boolean. -/
def scalar? (ts : List Tree) : Option (Expr × List Tree) :=
  match Tokens.literal? ts with
  | some (text, rest) => some (.literal text, rest)
  | none =>
    match Tokens.word? "true" ts, Tokens.word? "false" ts with
    | some rest, _ => some (.bool true, rest)
    | none, some rest => some (.bool false, rest)
    | none, none => none

def atom (body : Reader Expr) (records : Bool) : Reader Expr := do
  if let some group ← option Tokens.invisible? then substituted nested records group
  else if let some e ← option scalar? then return e
  else if ← peek startsLater then return .keyword false (← later block)
  else if ← peek startsClosure then closure nested block records
  else if ← peek startsPrimitive then return .keyword false (← primitive)
  else if ← peek startsPath then behindPath nested records (← memberPath nested)
  else if ← peek (Tokens.hasGroup .parenthesis) then parenthesized nested
  else if let some word ← peek fun ts => leaving.find? (Tokens.hasWord · ts) then
    return .keyword false (← leave nested word records)
  else if ← peek (Tokens.hasWord "become") then return .keyword false (← replacement nested)
  else if ← peek (Tokens.hasGroup .bracket) then array nested
  else if ← peek (Tokens.hasWord "let") then return .keyword false (← matching nested block records)
  else if ← peek startsBlockForm then blockForm nested block body
  else if ← peek (Tokens.hasOp "..") then rangeFrom nested records none
  else if ← ifWord "_" then return .placeholder
  else expected .expression

/-- The kind of reference that follows an ampersand. -/
def borrow : Reader Borrow := do
  let hasRaw (word : String) (ts : List Tree) : Bool := (Tokens.word? "raw" ts).any (Tokens.hasWord word)
  if ← peek (hasRaw "mut") then
    word "raw"
    word "mut"
    return .rawMutable
  if ← peek (hasRaw "const") then
    word "raw"
    word "const"
    return .rawConst
  return if ← ifWord "mut" then .mutable else .shared

/-- An operand with the signs and attributes in front of it. A range that has no beginning has no attributes. -/
def operandLoop (body : Reader Expr) (records : Bool) : Nat → Reader Expr
  | 0 => exhausted
  | n + 1 => do
    let attributes ← attributes nested
    if !attributes.isEmpty then
      let e ← operandLoop body records n
      if e.isRange then fail (.expected .expression false)
      return .attributed attributes e
    if ← peek Tokens.hasInvisible then trail nested (← atom nested block body records)
    else if ← ifOp "&" then return .borrow (← borrow) (← operandLoop body records n)
    else if ← ifOp "-" then return .unary .negate (← operandLoop body records n)
    else if ← ifOp "!" then return .unary .not (← operandLoop body records n)
    else if ← ifOp "*" then return .unary .dereference (← operandLoop body records n)
    else trail nested (← atom nested block body records)

def operand (body : Reader Expr) (records : Bool) : Reader Expr := do
  operandLoop nested block body records (← rounds)

/-! ### Statements -/

/-- An operand with all that follows it, where a form that ends in a block ends the whole, unless a point or a question
mark follows. -/
def bodyWithin : Nat → Reader Expr
  | 0 => exhausted
  | depth + 1 => do
    let inner := bodyWithin depth
    let attributes ← attributes nested
    let e ← if let some group ← option Tokens.invisible? then do
        let e ← substituted nested true group
        if e.ungrouped.isBlockForm then pure e else trail nested e
      else if ← peek startsBlockForm then blockForm nested block inner
      else operand nested block inner true
    let climbed (e : Expr) : Reader Expr := do
      let whole := attributedBy attributes e
      if e.isRange then return whole else climb nested true Connective.lowest whole
    if !e.ungrouped.isBlockForm then climbed e
    else if ← peek fun ts => Tokens.hasPoint ts || Tokens.hasOp "?" ts then climbed (← trail nested e)
    else return attributedBy attributes e

/-- An expression as it may be the body of an arm or a statement. -/
def body : Reader Expr := do bodyWithin nested block (← rounds)

/-- A statement needs a semicolon to be followed by another, unless it ends in a block. -/
def semicolonLoop (statement : Reader Statement) : Nat → Reader (List Statement)
  | 0 => exhausted
  | n + 1 => do
    if ← atEnd then return []
    let s ← statement
    if let .expr e false := s then
      if !e.endsStatement && !(← atEnd) then fail .noSemicolon
    return s :: (← semicolonLoop statement n)

/-- The last token is a brace. -/
def endsInBrace : List Tree → Bool
  | [] => false
  | [.group .brace _] => true
  | [.group .invisible body] => endsInBrace body
  | _ :: rest => endsInBrace rest

def letBinding (attributes : List Attribute) : Reader Statement := do
  word "let"
  let name ← pattern nested block
  let type ← if ← ifOp ":" then do pure (Tree.op ":" ++ (← typeTokens nested)) else pure []
  let head := Attribute.treesOf attributes ++ .word "let" :: name ++ type
  if !(← ifOp "=") then
    op ";"
    return .binding head none []
  let value ← expression nested
  let fails ← if endsInBrace value.trees then pure false else ifWord "else"
  let otherwise ← if fails then do
      pure [.word "else", Tree.braced (Statement.treesEach (← block false))]
    else pure []
  op ";"
  return .binding head (some value) otherwise

/-- The name of an invocation with braces that ends a statement: neither a point nor a question mark follows it. -/
def bracedInvocation? (ts : List Tree) : Option (Path × List Tree) :=
  (Path.plain? ts).filter fun (_, rest) =>
    Tokens.hasOp "!" rest && Tokens.second (Tokens.hasGroup .brace) rest
      && !Tokens.third (fun ts => Tokens.hasPoint ts || Tokens.hasOp "?" ts) rest

def itemParts : Item.Parts where
  expr := tokens nested
  pattern := pattern nested block
  body := blockTokens block

def statement : Reader Statement := do
  if ← ifOp ";" then return .empty
  let (attributes, source) ← withSource (Attribute.readEach (tokens nested))
  if let some name ← option bracedInvocation? then
    op "!"
    let (d, tokens) ← delimited
    return .expr (attributedBy attributes (.invocation name d tokens)) (← ifOp ";")
  if ← peek fun ts => Tokens.hasWord "let" ts && !Tokens.hasInvisible ts then letBinding nested block attributes
  else if ← peek Item.starts then return .item (← Item.read (itemParts nested block) attributes source)
  else
    let e ← body nested block
    return .expr (attributedBy attributes e) (← ifOp ";")

end

/-- The statements of a block, behind attributes where it may have some; blocks nest less deep than `depth`. -/
def blockWithin (nested : Nat → Bool → Reader Expr) : Nat → Bool → Reader (List Statement)
  | 0, _ => exhausted
  | depth + 1, annotated => inside .brace do
    let notes ← if annotated then Attribute.readInnerEach (tokens nested) else pure []
    return notes.map .note ++ (← semicolonLoop (statement nested (blockWithin nested depth)) (← rounds))

/-- Expressions nest less deep than `depth`; `level` is the least level that is read. -/
def readWithin : Nat → Nat → Bool → Reader Expr
  | 0, _, _ => exhausted
  | depth + 1, level, records => do
    let nested := readWithin depth
    let block := blockWithin nested (← rounds)
    climb nested records level (← operand nested block (body nested block) records)

end ExprReader

namespace Expr

def read : Reader Expr := do ExprReader.readWithin (← Reader.rounds) Connective.lowest true

/-- The tokens of an expression. -/
def readTokens : Reader (List Tree) := trees <$> read

/-- The expression that a list of tokens is. -/
def ofTrees (ts : List Tree) : Except SyntaxError Expr := Reader.all read ts

/-- The expression that a text is. -/
def ofText (s : String) : Except SyntaxError Expr :=
  match Tree.read? s with
  | some ts => ofTrees ts
  | none => .error .noTokens

end Expr

/-! ## Attributes and structs, with expressions inside -/

/-- All attributes in front of something. -/
def Attribute.readList : Reader (List Attribute) := Attribute.readEach Expr.readTokens

def Field.read : Reader Field := Field.readWith Expr.readTokens

def Struct.read : Reader Struct := Struct.readWith Expr.readTokens

end StoredProperty.Source
