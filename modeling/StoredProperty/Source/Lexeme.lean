import StoredProperty.Source.Number
import StoredProperty.Source.StringLiteral
import StoredProperty.Source.Tree
import StoredProperty.Text.Blank

/-!
# Lexemes

Source text is cut from left to right into lexemes: delimiters and leaves of token trees. Blank space and comments give
nothing, and a documentation comment gives the tokens of the `doc` attribute that it stands for. The delimiters then
pair up into groups, from right to left. `Tree.read?` does both, and fails as soon as no lexeme can be cut or a
delimiter has no partner.
-/

namespace StoredProperty.Source

open Text

inductive Lexeme where
  | opening (d : Delimiter)
  | closing (d : Delimiter)
  | leaf (t : Tree)

namespace Lexeme

/-- The marks of writing direction count as blank space. -/
def isSpace (c : Char) : Bool := isBlank c || c = '\u200e' || c = '\u200f'

def opening? : Char → Option Delimiter
  | '(' => some .parenthesis
  | '[' => some .bracket
  | '\x7b' => some .brace
  | _ => none

def closing? : Char → Option Delimiter
  | ')' => some .parenthesis
  | ']' => some .bracket
  | '\x7d' => some .brace
  | _ => none

/-! ## Comments -/

/-- The rest of a line, and what follows from its line feed on. -/
def untilLineEnd : List Char → List Char × List Char
  | [] => ([], [])
  | '\n' :: rest => ([], '\n' :: rest)
  | '\r' :: '\n' :: rest => ([], '\n' :: rest)
  | c :: rest =>
    let (line, after) := untilLineEnd rest
    (c :: line, after)

/-- The rest of a comment in blocks up to its last closing mark, with as many blocks around it as `depth`. -/
def untilBlockEnd? (depth : Nat) : List Char → Option (List Char × List Char)
  | [] => none
  | '/' :: '*' :: rest => (untilBlockEnd? (depth + 1) rest).map fun (body, after) => ('/' :: '*' :: body, after)
  | '*' :: '/' :: rest =>
    match depth with
    | 0 => some ([], rest)
    | outer + 1 => (untilBlockEnd? outer rest).map fun (body, after) => ('*' :: '/' :: body, after)
  | c :: rest => (untilBlockEnd? depth rest).map fun (body, after) => (c :: body, after)

/-- What a comment says behind its opening mark, and the rest behind it. -/
def comment? : List Char → Option (List Char × List Char)
  | '/' :: '/' :: rest => some (untilLineEnd rest)
  | '/' :: '*' :: rest => untilBlockEnd? 0 rest
  | _ => none

/-- A third sign makes a comment documentation: an exclamation mark, or the second sign once more. -/
def opensDocumentation : List Char → Bool
  | '/' :: '/' :: '!' :: _ => true
  | '/' :: '*' :: '!' :: _ => true
  | '/' :: '/' :: '/' :: rest => rest.head? ≠ some '/'
  | '/' :: '*' :: '*' :: rest => rest.head? ≠ some '*' && rest.head? ≠ some '/'
  | _ => false

/-- There is a carriage return without a line feed behind it. -/
def hasLoneReturn : List Char → Bool
  | [] => false
  | '\r' :: '\n' :: rest => hasLoneReturn rest
  | c :: rest => c = '\r' || hasLoneReturn rest

/-- The attribute for a comment that says the given text behind its third sign. -/
def documentation (inner : Bool) (text : List Char) : List Lexeme :=
  [.leaf (.punct '#' false)] ++ (if inner then [.leaf (.punct '!' false)] else [])
    ++ [.opening .bracket, .leaf (.word "doc"), .leaf (.punct '=' false), .leaf (.literal (StringLiteral.write text)),
        .closing .bracket]

def ofComment? (cs content : List Char) : Option (List Lexeme) :=
  if !opensDocumentation cs then some []
  else if hasLoneReturn (content.drop 1) then none
  else some (documentation (content.head? = some '!') (content.drop 1))

/-! ## Leaves -/

/-- The rest behind a literal. -/
def afterLiteral? (cs : List Char) : Option (List Char) :=
  match StringLiteral.read? cs with
  | some (_, _, rest) => some (afterSuffix rest)
  | none =>
    match cs with
    | 'b' :: '\'' :: rest => (afterCharacter? .bytes rest).map afterSuffix
    | '\'' :: rest => (afterCharacter? .text rest).map afterSuffix
    | _ => (Number.afterFloat? cs).or (Number.afterInteger? cs)

def literal? (cs : List Char) : Option (Tree × List Char) :=
  (afterLiteral? cs).map fun rest => (.literal (String.ofList (cs.take (cs.length - rest.length))), rest)

/-- The words that cannot be raw identifiers. -/
def neverRaw : List String := ["_", "super", "self", "Self", "crate"]

def word? (cs : List Char) : Option (String × List Char) :=
  (afterWord? cs).map fun rest => (String.ofList (cs.take (cs.length - rest.length)), rest)

def anyIdent? : List Char → Option (Ident × List Char)
  | 'r' :: '#' :: cs =>
    (word? cs).bind fun (name, rest) => if name ∈ neverRaw then none else some (⟨true, name⟩, rest)
  | cs => (word? cs).map fun (name, rest) => (.plain name, rest)

/-- The beginnings of literals: no identifier begins so. -/
def literalOpenings : List (List Char) :=
  ["r\"", "r#\"", "r##", "b\"", "b'", "br\"", "br#", "c\"", "cr\"", "cr#"].map String.toList

def ident? (cs : List Char) : Option (Ident × List Char) :=
  if literalOpenings.any (·.isPrefixOf cs) then none else anyIdent? cs

def isPunct (c : Char) : Bool := c ∈ "~!@#$%^&*-=+|;:,<.>/?'".toList

def startsComment : List Char → Bool
  | '/' :: '/' :: _ => true
  | '/' :: '*' :: _ => true
  | _ => false

/-- The next token begins with a punctuation character. -/
def startsPunct (cs : List Char) : Bool := cs.head?.any isPunct && !startsComment cs

/-- An apostrophe opens a lifetime: a name that nothing closes. -/
def opensLifetime (cs : List Char) : Bool :=
  match anyIdent? cs with
  | some (i, rest) => rest.head? ≠ some '\'' && (i.raw || rest.head? ≠ some '#')
  | none => false

/-- A punctuation character is joined to the next token if that is one too, an apostrophe always to its name. -/
def punct? : List Char → Option (Tree × List Char)
  | [] => none
  | c :: rest =>
    if !startsPunct (c :: rest) then none
    else if c = '\'' then if opensLifetime rest then some (.punct c true, rest) else none
    else some (.punct c (startsPunct rest), rest)

/-- What stands in the place of a literal that could not be made: it is cut as a literal, delimiters and all. -/
def errorMark : String := "(/*ERROR*/)"

def errorMark? (cs : List Char) : Option (Tree × List Char) :=
  if errorMark.toList.isPrefixOf cs then some (.literal errorMark, cs.drop errorMark.length) else none

def leaf? (cs : List Char) : Option (Tree × List Char) :=
  ((literal? cs).or (punct? cs)).or ((ident? cs).map fun (i, rest) => (.ident i, rest))

/-! ## Cutting -/

/-- What the front of a text gives, and the rest. -/
def next? : List Char → Option (List Lexeme × List Char)
  | [] => none
  | c :: rest =>
    if isSpace c then some ([], rest)
    else if let some (t, after) := errorMark? (c :: rest) then some ([leaf t], after)
    else
      match comment? (c :: rest), opening? c, closing? c with
      | some (content, after), _, _ => (ofComment? (c :: rest) content).map (·, after)
      | none, some d, _ => some ([opening d], rest)
      | none, none, some d => some ([closing d], rest)
      | none, none, none => (leaf? (c :: rest)).map fun (t, after) => ([leaf t], after)

/-- Every step takes at least one character, so that `fuel` need not exceed their number. -/
def scan? (fuel : Nat) (cs : List Char) : Option (List Lexeme) :=
  match fuel, cs with
  | _, [] => some []
  | 0, _ :: _ => none
  | fuel + 1, c :: rest => do
    let (lexemes, after) ← next? (c :: rest)
    return lexemes ++ (← scan? fuel after)

/-- A byte order mark in front of a text does not belong to it. -/
def withoutMark : List Char → List Char
  | '\ufeff' :: cs => cs
  | cs => cs

def ofChars? (cs : List Char) : Option (List Lexeme) := scan? cs.length (withoutMark cs)

/-! ## Pairing delimiters -/

/-- The trees behind a place in the text, and those behind each group that is closed there and not yet opened. -/
structure Pending where
  here : List Tree
  outside : List (Delimiter × List Tree)

/-- Puts a lexeme in front. -/
def attach? : Lexeme → Pending → Option Pending
  | leaf t, p => some { p with here := t :: p.here }
  | closing d, p => some ⟨[], (d, p.here) :: p.outside⟩
  | opening d, ⟨here, outside⟩ =>
    match outside with
    | (d', behind) :: outside => if d = d' then some ⟨.group d here :: behind, outside⟩ else none
    | [] => none

def pair? (lexemes : List Lexeme) : Option (List Tree) :=
  (lexemes.foldrM attach? ⟨[], []⟩).bind fun p => if p.outside.isEmpty then some p.here else none

end Lexeme

/-- The token trees of a text. -/
def Tree.read? (s : String) : Option (List Tree) := (Lexeme.ofChars? s.toList).bind Lexeme.pair?

end StoredProperty.Source
