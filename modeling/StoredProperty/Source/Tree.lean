/-!
# Token trees

Source text is a list of token trees: identifiers, single punctuation characters, literals as they were written, and
groups between delimiters. A punctuation character may be joined to the next token. `Tree.text` writes trees with one
blank between tokens, and none behind a joined character. An invisible group has no delimiters: it holds together what
was substituted as one operand.
-/

namespace StoredProperty.Source

inductive Delimiter where
  | parenthesis | bracket | brace | invisible
  deriving DecidableEq

/-- An identifier; a raw one may be a keyword. -/
structure Ident where
  raw : Bool
  name : String
  deriving DecidableEq

def Ident.text (i : Ident) : String := if i.raw then "r#" ++ i.name else i.name

def Ident.plain (name : String) : Ident := ⟨false, name⟩

inductive Tree where
  | group (d : Delimiter) (body : List Tree)
  | ident (i : Ident)
  | punct (c : Char) (joint : Bool)
  | literal (text : String)

namespace Delimiter

def opening : Delimiter → List Char
  | parenthesis => ['(']
  | bracket => ['[']
  | brace => ['\x7b', ' ']
  | invisible => []

/-- The closing delimiter; a brace stands apart from what is before it. -/
def closing (body : List Tree) : Delimiter → List Char
  | parenthesis => [')']
  | bracket => [']']
  | brace => if body.isEmpty then ['\x7d'] else [' ', '\x7d']
  | invisible => []

end Delimiter

namespace Tree

/-- What stands between a token and the ones behind it. -/
def gap (t : Tree) (rest : List Tree) : List Char :=
  match t, rest with
  | _, [] => []
  | .punct _ true, _ => []
  | _, _ => [' ']

mutual

def chars : Tree → List Char
  | .group d body => d.opening ++ charsOf body ++ d.closing body
  | .ident i => i.text.toList
  | .punct c _ => [c]
  | .literal text => text.toList

def charsOf : List Tree → List Char
  | [] => []
  | t :: rest => t.chars ++ t.gap rest ++ charsOf rest

end

def text (ts : List Tree) : String := String.ofList (charsOf ts)

mutual

/-- The number of tokens, delimiters counted once for each group. -/
def size : Tree → Nat
  | .group _ body => sizes body + 1
  | _ => 1

def sizes : List Tree → Nat
  | [] => 0
  | t :: rest => t.size + sizes rest

end

/-! ## Building trees -/

/-- A word that is not raw. -/
def word (name : String) : Tree := .ident (.plain name)

def paren (body : List Tree) : Tree := .group .parenthesis body

def bracketed (body : List Tree) : Tree := .group .bracket body

def braced (body : List Tree) : Tree := .group .brace body

/-- The characters of an operator, each joined to the next. -/
def opChars : List Char → List Tree
  | [] => []
  | [c] => [.punct c false]
  | c :: rest => .punct c true :: opChars rest

def op (text : String) : List Tree := opChars text.toList

/-- A lifetime: an apostrophe joined to its name. -/
def lifetime (i : Ident) : List Tree := [.punct '\'' true, .ident i]

/-- Items separated by commas, with one more comma behind the last if it was written. -/
def commas (items : List (List Tree)) (trailing : Bool) : List Tree :=
  (op ",").intercalate items ++ if trailing then op "," else []

end Tree

end StoredProperty.Source
