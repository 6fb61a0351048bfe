import StoredProperty.Accessor
import StoredProperty.Source.Expr.Reader
import StoredProperty.Source.Struct

/-!
# Accessors as methods

The getter and the setter of a field, as tokens. The texts of an accessor are read as expressions first, and the first
that is none is a syntax error: the getter's store, key and default, then the setter's store and key. The getter returns
the default when the key is absent; a text is converted from the default, and is the default again when the value is
not a text.
-/

namespace StoredProperty

open Source

namespace Accessor

/-- Reads one of the texts, which is for `what`. -/
def operand (what text : String) : Except Diagnostic (List Tree) :=
  match Expr.ofText text with
  | .ok e => .ok e.trees
  | .error e => .error (.syntaxError ("invalid " ++ what ++ " expression `" ++ text ++ "`: " ++ e.message))

/-- The store's tokens, where `library` is the path to what all stores share. -/
def storeTrees (library : List Tree) : StoreRef → Except Diagnostic (List Tree)
  | .standard => .ok (library ++ Tree.op "::" ++ [.word "standard", Tree.paren []])
  | .expr source => operand "store" source

/-- The variable that holds the store in a method. -/
def storeName : Tree := .word "__store"

/-- The first two statements of both methods. -/
def opening (library store : List Tree) : List Tree :=
  .word "use" :: library ++ Tree.op "::" ++ [.word "KeyValueStore", .word "as", .word "_"] ++ Tree.op ";"
    ++ [.word "let", storeName] ++ Tree.op "=" ++ Tree.op "&" ++ [Tree.paren store] ++ Tree.op ";"

/-- A call of one of the store's methods. -/
def callStore (method : String) (arguments : List Tree) : List Tree :=
  storeName :: Tree.op "." ++ [.word method, Tree.paren arguments]

/-- The default as the value that is returned: a text is converted. -/
def defaultTrees (type : ValueType) (value : List Tree) : List Tree :=
  if type = .string then
    Tree.op "::" ++ (Tree.op "::").intercalate (["core", "convert", "Into", "into"].map fun w => [Tree.word w])
      ++ [Tree.paren value]
  else value

def getterBody (a : Accessor) (library store key value : List Tree) : List Tree :=
  let value := defaultTrees a.valueType value
  let fallback :=
    if a.read.fallsBack then Tree.op "." ++ [.word "unwrap_or_else", Tree.paren (Tree.op "||" ++ value)] else []
  opening library store
    ++ [.word "if"] ++ Tree.op "!" ++ callStore "contains" key
    ++ [Tree.braced (.word "return" :: value ++ Tree.op ";")]
    ++ callStore a.read.method key ++ fallback

def setterBody (library store key : List Tree) : List Tree :=
  let stored :=
    library ++ Tree.op "::" ++ [.word "StoreValue"] ++ Tree.op "::" ++ [.word "from", Tree.paren [.word newValue]]
  opening library store ++ callStore "set_value" (key ++ Tree.op "," ++ stored) ++ Tree.op ";"

/-- The comment on the setter of a field. -/
def setterComment (field : Ident) : Attribute :=
  let text := " Stores a new value for [`Self::" ++ field.text ++ "`]."
  { path := .ofName (.plain "doc"), content := .value [.literal (StringLiteral.write text.toList)] }

/-- The receiver of both methods. -/
def receiver : List Tree := Tree.op "&" ++ [.word "self"]

def getter (f : Field) (comments : List Attribute) (body : List Tree) : List Tree :=
  Attribute.treesOf comments ++ f.visibility ++ [.word "fn", .ident f.name, Tree.paren receiver] ++ Tree.op "->"
    ++ f.type ++ [Tree.braced body]

/-- The setter is named for the field, which need not be raw any more. -/
def setter (f : Field) (body : List Tree) : List Tree :=
  let parameters := receiver ++ Tree.op "," ++ [.word newValue] ++ Tree.op ":" ++ f.type
  (setterComment f.name).trees ++ f.visibility ++ [.word "fn", .word ("set_" ++ f.name.name), Tree.paren parameters]
    ++ [Tree.braced body]

/-- The getter, under the comments, and the setter of a field. -/
def methods (a : Accessor) (f : Field) (comments : List Attribute) (library : List Tree) :
    Except Diagnostic (List Tree) := do
  let store ← storeTrees library a.store
  let key ← operand "key" a.key
  let value ← operand "default value" a.default
  let setStore ← storeTrees library a.set.store
  let setKey ← operand "key" a.set.key
  return getter f comments (a.getterBody library store key value) ++ setter f (setterBody library setStore setKey)

end Accessor

end StoredProperty
