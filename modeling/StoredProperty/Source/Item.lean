import StoredProperty.Source.Struct

/-!
# Items in blocks

A block may declare items: imports, constants, functions, types, modules, traits and implementations. Nothing looks into
them, so that an item is kept as tokens: those of its grammar, or, where it is one that the grammar has no place for,
those that it is written with. Readers for expressions, patterns and bodies are parameters; items inside each other nest
less deep than there are tokens.
-/

namespace StoredProperty.Source.Item

open Reader

/-- Readers for what items hold; each gives tokens. -/
structure Parts where
  expr : Reader (List Tree)
  pattern : Reader (List Tree)
  /-- The body of a function. -/
  body : Reader (List Tree)

/-- The tokens of an item; none where it is kept as it is written. -/
abbrev Form := Option (List Tree)

/-- What an item stands in. -/
inductive Place where
  | block | trait | implementation | foreign
  deriving DecidableEq

/-! ## Looking ahead -/

def pass (word : String) (ts : List Tree) : List Tree := (Tokens.word? word ts).getD ts

/-- The calling convention behind `extern`. -/
def passConvention (ts : List Tree) : List Tree :=
  match Tokens.word? "extern" ts with
  | none => ts
  | some rest => ((Tokens.text? rest).map Prod.snd).getD rest

/-- The words of a function up to its name. -/
def startsFunction (safe : Bool) (ts : List Tree) : Bool :=
  let ts := pass "async" (pass "const" ts)
  let ts := if safe && Tokens.hasWord "safe" ts then pass "safe" ts else pass "unsafe" ts
  Tokens.hasWord "fn" (passConvention ts)

def startsPath (ts : List Tree) : Bool :=
  Tokens.hasName ts || Tokens.hasAnyWord ["self", "super", "crate"] ts || Tokens.hasOp "::" ts

/-- The name of an invocation that names what it defines. -/
def startsDefinition (ts : List Tree) : Bool :=
  (Path.plain? ts).any fun (_, rest) =>
    Tokens.hasOp "!" rest && Tokens.second (fun ts => Tokens.hasName ts || Tokens.hasWord "try" ts) rest

/-- An item and no expression. -/
def starts (ts : List Tree) : Bool :=
  let second (words : List String) : Bool := Tokens.second (Tokens.hasAnyWord words) ts
  let third (words : List String) : Bool := Tokens.third (Tokens.hasAnyWord words) ts
  let function := ["unsafe", "extern", "fn"]
  let closure := second ["static", "move"] || Tokens.second (Tokens.hasOp "|") ts
  Tokens.hasAnyWord ["pub", "extern", "use", "fn", "mod", "type", "struct", "enum", "trait", "impl", "macro"] ts
    || (Tokens.hasWord "crate" ts && !Tokens.second (Tokens.hasOp "::") ts)
    || (Tokens.hasWord "static" ts && (second ["mut"] || Tokens.second Tokens.hasName ts))
    || (Tokens.hasWord "const" ts
      && !(Tokens.second (Tokens.hasGroup .brace) ts || (second ["async"] && !third function) || closure))
    || (Tokens.hasWord "unsafe" ts && !Tokens.second (Tokens.hasGroup .brace) ts)
    || (Tokens.hasWord "async" ts && second function)
    || (Tokens.hasWord "union" ts && Tokens.second Tokens.hasName ts)
    || (Tokens.hasWord "auto" ts && second ["trait"])
    || (Tokens.hasWord "default" ts && second ["unsafe", "impl"])
    || startsDefinition ts

section

variable (parts : Parts)

/-! ## Common parts -/

def type : Reader (List Tree) := Generics.typeTokens parts.expr

def conditions : Reader (List Tree) := Generics.conditionTokens parts.expr

/-- The tokens of the parameters; the brackets may be there without any. -/
def parameters : Reader (List Tree) := do
  let (parameters, trailing) ← Generics.readParameters parts.expr
  return ({ parameters, trailing, conditions := [] } : Generics).declared

def optionalOp (text : String) : Reader (List Tree) := do return if ← ifOp text then Tree.op text else []

def opTokens (text : String) : Reader (List Tree) := do
  op text
  return Tree.op text

def nameTokens : Reader (List Tree) := do return [.ident (← name)]

def optionalWords (words : List String) : Reader (List Tree) := List.flatten <$> words.mapM TypeForm.optionalWord

/-- A value behind an equals sign, if there is one. -/
def value (reader : Reader (List Tree)) : Reader (List Tree) := TypeForm.defaultTokens reader

/-- A name, or an underscore in its place. -/
def nameOrUnderscore (e : Expectation) : Reader (List Tree) := do
  if ← peek fun ts => Tokens.hasName ts || Tokens.hasWord "_" ts then return [.ident (← anyWord)]
  expected e

/-! ## Imports -/

/-- What is imported. At the root a part may begin with colons, which the grammar has no place for. -/
def importTree (root : Bool) : Nat → Reader Form
  | 0 => exhausted
  | n + 1 => do
    let names := ["self", "super", "crate", "try"]
    if ← peek fun ts => Tokens.hasName ts || Tokens.hasAnyWord names ts then
      let name : List Tree := [.ident (← anyWord)]
      if ← ifOp "::" then return (← importTree false n).map (name ++ Path.separator ++ ·)
      if ← ifWord "as" then return some (name ++ .word "as" :: (← nameOrUnderscore .newName))
      return some name
    if ← ifOp "*" then return some (Tree.op "*")
    if !(← peek (Tokens.hasGroup .brace)) then
      expected (.choice (["identifier"] ++ names.map (fun w => "`" ++ w ++ "`") ++ ["`*`", "curly braces"]))
    let (items, trailing) ← inside .brace (commas do
      let colons ← if root then ifOp "::" else pure false
      let tree ← importTree (root && !colons) n
      return if colons then none else tree)
    return (items.mapM id).map fun items => [Tree.braced (Tree.commas items trailing)]

def importForm (lead : List Tree) : Reader Form := do
  word "use"
  let colons ← optionalOp "::"
  let tree ← importTree colons.isEmpty (← rounds)
  op ";"
  return tree.map fun tree => lead ++ .word "use" :: colons ++ tree ++ Tree.op ";"

/-- A package that is made known, perhaps under another name. -/
def packageForm (lead : List Tree) : Reader Form := do
  word "extern"
  word "crate"
  let name ← if ← peek (Tokens.hasWord "self") then do pure [.ident (← anyWord)] else nameTokens
  let other ← if ← ifWord "as" then do pure (.word "as" :: (← nameOrUnderscore (.name ""))) else pure []
  op ";"
  return some (lead ++ [.word "extern", .word "crate"] ++ name ++ other ++ Tree.op ";")

/-! ## Constants -/

def staticForm (lead : List Tree) : Reader Form := do
  word "static"
  let mutable ← TypeForm.optionalWord "mut"
  let name ← nameTokens
  if ← ifOp "=" then
    let _ ← parts.expr
    op ";"
    return none
  op ":"
  let type ← type parts
  if ← ifOp ";" then return none
  op "="
  let value ← parts.expr
  op ";"
  return some (lead ++ .word "static" :: mutable ++ name ++ Tree.op ":" ++ type ++ Tree.op "=" ++ value ++ Tree.op ";")

/-- A constant. The grammar has no place for parameters, and only in a trait for a missing value. -/
def constantForm (place : Place) (lead : List Tree) : Reader Form := do
  word "const"
  let name ← nameOrUnderscore (.choice ["identifier", "`_`"])
  let hasParameters ← peek (Tokens.hasOp "<")
  let _ ← parameters parts
  op ":"
  let type ← type parts
  let value ← value parts.expr
  let hasConditions ← peek (Tokens.hasWord "where")
  let _ ← conditions parts
  op ";"
  if hasParameters || hasConditions || (value.isEmpty && place ≠ .trait) then return none
  return some (lead ++ .word "const" :: name ++ Tree.op ":" ++ type ++ value ++ Tree.op ";")

/-! ## Functions -/

/-- The receiver of a method. -/
def receiver : Reader (List Tree) := do
  let borrow ← if ← ifOp "&" then do
      pure (Tree.op "&" ++ ((← option Tokens.lifetime?).map Tree.lifetime).getD [])
    else pure []
  let mutable ← TypeForm.optionalWord "mut"
  word "self"
  let isTyped ← if borrow.isEmpty then ifOp ":" else pure false
  if !isTyped then return borrow ++ mutable ++ [.word "self"]
  return mutable ++ .word "self" :: Tree.op ":" ++ (← type parts)

/-- Three points for any number of parameters, and a comma unless they end the list. -/
def remaining : Reader (List Tree) := do
  op "..."
  return Tree.op "..." ++ (← if ← atEnd then pure [] else opTokens ",")

/-- The parameters of a function, of which only the first may be a receiver. An old parameter is a type alone. -/
def parametersLoop (isFirst received : Bool) : Nat → Reader (List Tree)
  | 0 => exhausted
  | n + 1 => do
    if ← atEnd then return []
    let attributes := Attribute.treesOf (← Attribute.readEach parts.expr)
    if ← peek (Tokens.hasOp "...") then return attributes ++ (← remaining)
    let receiver? ← attempt (receiver parts)
    if receiver?.isSome && !isFirst then fail (.lateReceiver received)
    let parameter ← match receiver? with
      | some receiver => pure receiver
      | none =>
        if ← peek fun ts => Tokens.hasName ts && Tokens.second (Tokens.hasOp "<") ts then do
          pure (.word "_" :: Tree.op ":" ++ (← type parts))
        else do
          let pattern := (← parts.pattern) ++ (← opTokens ":")
          if ← peek (Tokens.hasOp "...") then return attributes ++ pattern ++ (← remaining)
          pure (pattern ++ (← type parts))
    if ← atEnd then return attributes ++ parameter
    op ","
    return attributes ++ parameter ++ Tree.op "," ++ (← parametersLoop false (received || receiver?.isSome) n)

/-- What stands in front of the body of a function, and whether it is said to be safe. -/
def signature (place : Place) : Reader (Bool × List Tree) := do
  let first ← optionalWords ["const", "async", "unsafe"]
  let isUnsafe := first.any fun
    | .ident i => i = .plain "unsafe"
    | _ => false
  let safe ← if place = .foreign && !isUnsafe then ifWord "safe" else pure false
  let words := first ++ (← TypeForm.foreign)
  word "fn"
  let name ← nameTokens
  let generics ← parameters parts
  let body ← inside .parenthesis do parametersLoop parts true false (← rounds)
  let result ← TypeForm.result (type parts)
  return (safe, words ++ .word "fn" :: name ++ generics ++ [Tree.paren body] ++ result ++ (← conditions parts))

/-- A function. The grammar has a place for one without a body only in a trait and for one from elsewhere. -/
def functionForm (place : Place) (lead : List Tree) : Reader Form := do
  let (safe, signature) ← signature parts place
  if ← ifOp ";" then
    return if safe || place = .block || place = .implementation then none else some (lead ++ signature ++ Tree.op ";")
  let body ← parts.body
  return if place = .foreign then none else some (lead ++ signature ++ body)

/-! ## Types -/

/-- Another name for a type, or a type that is a member. Conditions stand in front of the type in a block, behind it in
a trait or an implementation, and either way for a type from elsewhere. -/
def typeForm (place : Place) (lead : List Tree) : Reader Form := do
  word "type"
  let name ← nameTokens
  let generics ← parameters parts
  let hasBounds ← peek (Tokens.hasOp ":")
  let stop (ts : List Tree) : Bool := Tokens.hasWord "where" ts || Tokens.hasOp "=" ts || Tokens.hasOp ";" ts
  let bounds ← TypeForm.colonBounds (Generics.boundsUntil parts.expr stop)
  let inFront := place = .block || place = .foreign
  let before ← if inFront then conditions parts else pure []
  let value ← value (type parts)
  let behind ← if place ≠ .block && before.isEmpty then conditions parts else pure []
  op ";"
  let fits := match place with
    | .block | .implementation => !hasBounds && !value.isEmpty
    | .trait => true
    | .foreign => !hasBounds && value.isEmpty
  return if fits then
    some (lead ++ .word "type" :: name ++ generics ++ bounds ++ before ++ value ++ behind ++ Tree.op ";")
  else none

def variant : Reader (List Tree) := do
  let attributes := Attribute.treesOf (← Attribute.readEach parts.expr)
  let _ ← Visibility.read
  let name ← nameTokens
  let fields ← if ← peek (Tokens.hasGroup .brace) then do
      let (fields, trailing) ← Fields.readNamed parts.expr
      pure [Fields.braced fields trailing]
    else if ← peek (Tokens.hasGroup .parenthesis) then do
      pure [Tree.paren (← Fields.readTuple parts.expr)]
    else pure []
  return attributes ++ name ++ fields ++ (← value parts.expr)

def enumForm (lead : List Tree) : Reader Form := do
  word "enum"
  let heading := (← nameTokens) ++ (← parameters parts) ++ (← conditions parts)
  let (variants, trailing) ← inside .brace (commas (variant parts))
  return some (lead ++ .word "enum" :: heading ++ [Tree.braced (Tree.commas variants trailing)])

def unionForm (lead : List Tree) : Reader Form := do
  word "union"
  let heading := (← nameTokens) ++ (← parameters parts) ++ (← conditions parts)
  let (fields, trailing) ← Fields.readNamed parts.expr
  return some (lead ++ .word "union" :: heading ++ [Fields.braced fields trailing])

def structForm : Reader Form := do return some (← Struct.readWith parts.expr).trees

/-! ## Invocations -/

/-- An invocation; without braces it needs a semicolon. In a block it may name what it defines. -/
def invocationForm (place : Place) : Reader Form := do
  let path ← Path.readPlain
  op "!"
  let defined? (ts : List Tree) : Option (Ident × List Tree) :=
    if place = .block then (Tokens.name? ts).or ((Tokens.word? "try" ts).map (.plain "try", ·)) else none
  let defined := (← option defined?).map Tree.ident
  let (d, body) ← delimited
  let semicolon ← if d = .brace then pure [] else opTokens ";"
  return some (path.trees ++ Tree.op "!" ++ defined.toList ++ [.group d body] ++ semicolon)

/-- A definition of an invocation by its parameters, which the grammar has no place for. -/
def definitionForm : Reader Form := do
  word "macro"
  let _ ← name
  let _ ← option (Tokens.group? .parenthesis)
  let _ ← group .brace
  return none

/-! ## Items with items inside -/

section

-- `items` reads the items of a place up to the end.
variable (items : Place → Reader (List Tree))

/-- Items between braces, with attributes inside. -/
def itemsInside (place : Place) : Reader (List Tree) := do
  let body ← inside .brace do
    let attributes ← Attribute.readInnerEach parts.expr
    return Attribute.treesOf attributes ++ (← items place)
  return [Tree.braced body]

def moduleForm (lead : List Tree) : Reader Form := do
  let marked ← TypeForm.optionalWord "unsafe"
  word "mod"
  let name ← if ← peek (Tokens.hasWord "try") then do pure [.ident (← anyWord)] else nameTokens
  let heading := lead ++ marked ++ .word "mod" :: name
  if ← ifOp ";" then return some (heading ++ Tree.op ";")
  if !(← peek (Tokens.hasGroup .brace)) then expected (.choice ["`;`", "curly braces"])
  return some (heading ++ (← itemsInside parts items .block))

def foreignForm (lead : List Tree) : Reader Form := do
  let marked ← TypeForm.optionalWord "unsafe"
  let convention ← TypeForm.foreign
  return some (lead ++ marked ++ convention ++ (← itemsInside parts items .foreign))

/-- A trait, or another name for bounds behind an equals sign. -/
def traitForm (lead : List Tree) : Reader Form := do
  let marks ← optionalWords ["unsafe", "auto"]
  word "trait"
  let heading := lead ++ marks ++ .word "trait" :: (← nameTokens) ++ (← parameters parts)
  let isAlias ← if marks.isEmpty then ifOp "=" else pure false
  if isAlias then
    let stop (ts : List Tree) : Bool := Tokens.hasWord "where" ts || Tokens.hasOp ";" ts
    let bounds ← Generics.boundsUntil parts.expr stop
    let conditions ← conditions parts
    op ";"
    return some (heading ++ Tree.op "=" ++ bounds ++ conditions ++ Tree.op ";")
  let stop (ts : List Tree) : Bool := Tokens.hasWord "where" ts || Tokens.hasGroup .brace ts
  let bounds ← TypeForm.colonBounds (Generics.boundsUntil parts.expr stop)
  let conditions ← conditions parts
  return some (heading ++ bounds ++ conditions ++ (← itemsInside parts items .trait))

/-- The word `const` in front of the trait of an implementation, perhaps behind a question mark. -/
def startsConstant (ts : List Tree) : Bool :=
  Tokens.hasWord "const" ts || (Tokens.hasOp "?" ts && Tokens.second (Tokens.hasWord "const") ts)

/-- An implementation. The grammar has no place for a constant one, for a visible one, or for a trait that is no
path. -/
def implementationForm (lead : List Tree) : Reader Form := do
  let marks ← optionalWords ["default", "unsafe"]
  word "impl"
  let generics ← if ← peek Generics.opens then parameters parts else pure []
  let constant ← peek startsConstant
  if constant then
    let _ ← ifOp "?"
    word "const"
  let negative ← if ← peek fun ts => Tokens.hasOp "!" ts && !Tokens.second (Tokens.hasGroup .brace) ts
    then opTokens "!" else pure []
  let first ← TypeForm.read parts.expr true true
  let isFor ← ifWord "for"
  let path? := match first with
    | .path p => if p.hasOwner then none else some p.trees
    | _ => none
  let subject ← if isFor then do pure (path?.getD [] ++ .word "for" :: (← type parts))
    else do
      if !negative.isEmpty then fail .negativeInherent
      pure first.trees
  let conditions ← conditions parts
  let body ← itemsInside parts items .implementation
  if !lead.isEmpty || constant || (isFor && path?.isNone) then return none
  return some (marks ++ .word "impl" :: generics ++ negative ++ subject ++ conditions ++ body)

/-! ## All items -/

/-- The words that items begin with, for an error. -/
def beginnings : Place → List String
  | .block => ["fn", "extern", "use", "static", "const", "unsafe", "mod", "type", "struct", "enum", "union", "trait",
      "auto", "impl", "default", "macro"]
  | .trait | .implementation => ["fn", "const", "type"]
  | .foreign => ["fn", "static", "type"]

def noItem (place : Place) : Reader Form := expected (.choice ((beginnings place).map fun w => "`" ++ w ++ "`"))

/-- What `unsafe` stands in front of. -/
def unsafeForm (lead : List Tree) : Reader Form := do
  let second (words : List String) (ts : List Tree) : Bool := Tokens.second (Tokens.hasAnyWord words) ts
  if ← peek (second ["trait", "auto"]) then traitForm parts items lead
  else if ← peek (second ["impl"]) then implementationForm parts items lead
  else if ← peek (second ["extern"]) then foreignForm parts items lead
  else if ← peek (second ["mod"]) then moduleForm parts items lead
  else
    word "unsafe"
    expected (.choice ["`trait`", "`auto`", "`impl`", "`extern`", "`mod`"])

/-- An item of a block behind its visibility. -/
def blockForm (lead : List Tree) : Reader Form := do
  let has (word : String) : Reader Bool := peek (Tokens.hasWord word)
  if ← peek (startsFunction false) then functionForm parts .block lead
  else if ← has "extern" then
    if ← peek (Tokens.second (Tokens.hasWord "crate")) then packageForm lead else foreignForm parts items lead
  else if ← has "use" then importForm lead
  else if ← has "static" then staticForm parts lead
  else if ← has "const" then constantForm parts .block lead
  else if ← has "unsafe" then unsafeForm parts items lead
  else if ← has "mod" then moduleForm parts items lead
  else if ← has "type" then typeForm parts .block lead
  else if ← has "struct" then return (← structForm parts).map (lead ++ ·)
  else if ← has "enum" then enumForm parts lead
  else if ← peek fun ts => Tokens.hasWord "union" ts && Tokens.second Tokens.hasName ts then unionForm parts lead
  else if ← has "trait" then traitForm parts items lead
  else if ← peek fun ts => Tokens.hasWord "auto" ts && Tokens.second (Tokens.hasWord "trait") ts then
    traitForm parts items lead
  else if ← peek fun ts => Tokens.hasWord "impl" ts
      || (Tokens.hasWord "default" ts && !Tokens.second (Tokens.hasOp "!") ts) then
    implementationForm parts items lead
  else if ← has "macro" then definitionForm
  else if lead.isEmpty && (← peek startsPath) then invocationForm .block
  else noItem .block

/-- A member of a trait or of an implementation behind its visibility and the mark of a default. -/
def memberForm (place : Place) (lead : List Tree) : Reader Form := do
  if ← peek (startsFunction false) then functionForm parts place lead
  else if ← peek (Tokens.hasWord "const") then constantForm parts place lead
  else if ← peek (Tokens.hasWord "type") then typeForm parts place lead
  else if lead.isEmpty && (← peek startsPath) then invocationForm place
  else noItem place

/-- A constant from elsewhere. The grammar has no place for a value, or for whether it is safe. -/
def foreignStatic (lead : List Tree) : Reader Form := do
  let marks ← optionalWords ["unsafe", "safe"]
  word "static"
  let mutable ← TypeForm.optionalWord "mut"
  let name ← nameTokens
  op ":"
  let type ← type parts
  let value ← value parts.expr
  op ";"
  if !marks.isEmpty || !value.isEmpty then return none
  return some (lead ++ .word "static" :: mutable ++ name ++ Tree.op ":" ++ type ++ Tree.op ";")

def foreignMember (lead : List Tree) : Reader Form := do
  let static (ts : List Tree) : Bool :=
    Tokens.hasWord "static" ts
      || (Tokens.hasAnyWord ["unsafe", "safe"] ts && Tokens.second (Tokens.hasWord "static") ts)
  if ← peek (startsFunction true) then functionForm parts .foreign lead
  else if ← peek static then foreignStatic parts lead
  else if ← peek (Tokens.hasWord "type") then typeForm parts .foreign lead
  else if lead.isEmpty && (← peek startsPath) then invocationForm .foreign
  else noItem .foreign

/-- The mark of a member that an implementation may replace. -/
def defaultMark : Reader (List Tree) := do
  if ← peek fun ts => Tokens.hasWord "default" ts && !Tokens.second (Tokens.hasOp "!") ts then
    TypeForm.optionalWord "default"
  else return []

/-- An item of a place, behind its attributes. -/
def form (place : Place) : Reader Form := do
  let lead ← Visibility.read
  match place with
  | .block => blockForm parts items lead
  | .foreign => foreignMember parts lead
  | .implementation => memberForm parts place (lead ++ (← defaultMark))
  | .trait =>
    let lead := lead ++ (← TypeForm.optionalWord "default")
    let item ← memberForm parts place lead
    return if lead.isEmpty then item else none

end

/-- The tokens of an item; what the grammar has no place for keeps its attributes as they are written. -/
def tokensOf (attributes source behind : List Tree) : Form → List Tree
  | some tokens => attributes ++ tokens
  | none => source ++ behind

/-- All items of a place. They nest less deep than `depth`. -/
def itemsWithin (place : Place) : Nat → Nat → Reader (List Tree)
  | 0, _ => exhausted
  | _, 0 => exhausted
  | depth + 1, n + 1 => do
    if ← atEnd then return []
    let (attributes, source) ← withSource (Attribute.readEach parts.expr)
    let (item, behind) ← withSource (form parts (fun place => do itemsWithin place depth (← rounds)) place)
    return tokensOf (Attribute.treesOf attributes) source behind item ++ (← itemsWithin place (depth + 1) n)

/-- An item of a block behind its attributes, which are also given as they are written. -/
def read (attributes : List Attribute) (source : List Tree) : Reader (List Tree) := do
  let depth ← rounds
  let (item, behind) ← withSource (form parts (fun place => do itemsWithin parts place depth (← rounds)) .block)
  return tokensOf (Attribute.treesOf attributes) source behind item

end

end StoredProperty.Source.Item
