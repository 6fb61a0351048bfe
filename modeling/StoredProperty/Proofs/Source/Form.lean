import StoredProperty.Source.Struct

/-!
# Structs, token by token

How a struct with named fields is written, with every token spelled out: attributes, visibility, name, generic
parameters, conditions, and the fields between braces. The printers of the code agree with this: `StructItem.trees_item`.
-/

namespace StoredProperty.Source

/-- Items with a comma between each and the next, and one more behind the last where there was one. -/
def spelledList (items : List (List Tree)) (trailing : Bool) : List Tree :=
  (Tree.op ",").intercalate items ++ if trailing then Tree.op "," else []

def Path.spelled (p : Path) : List Tree :=
  (if p.leading then Tree.op "::" else [])
    ++ (Tree.op "::").intercalate (p.segments.map fun s => .ident s.name :: s.arguments)

namespace Attribute

/-- A hash, the exclamation mark of an inner attribute, and the rest between brackets. -/
def spelled (a : Attribute) : List Tree :=
  let content := match a.content with
    | .word => []
    | .list d body => [.group d body]
    | .value tokens => Tree.op "=" ++ tokens
  Tree.op "#" ++ (if a.inner then Tree.op "!" else []) ++ [.group .bracket (a.path.spelled ++ content)]

/-- A comment on what stands behind it. -/
def comment (text : String) : Attribute where
  path := .ofName (.plain "doc")
  content := .value [.literal (StringLiteral.write text.toList)]

/-- The code prints an attribute as it is spelled out. -/
theorem spelled_eq (a : Attribute) : a.spelled = a.trees := by
  obtain ⟨path, content, inner⟩ := a
  cases content <;> rfl

theorem flatMap_spelled (attributes : List Attribute) : attributes.flatMap spelled = treesOf attributes := by
  simp only [treesOf, funext spelled_eq]

end Attribute

namespace Generics

/-- The parameters between angle brackets, each in its form; there are no brackets without parameters. -/
def spelled (g : Generics) (form : GenericParameter → List Tree) : List Tree :=
  match g.parameters with
  | [] => []
  | ps => Tree.op "<" ++ spelledList (ps.map form) g.trailing ++ Tree.op ">"

/-- The code prints parameters as they are spelled out, in each of their forms. -/
theorem spelled_eq (g : Generics) (form : GenericParameter → List Tree) : g.spelled form = g.written form := by
  obtain ⟨parameters, trailing, conditions⟩ := g
  cases parameters <;> rfl

end Generics

namespace GenericParameter

/-- The parameter where it is declared. -/
def spelled (p : GenericParameter) : List Tree :=
  p.attributes.flatMap Attribute.spelled ++ p.lead ++ p.name ++ p.bounds ++ p.default

/-- The parameter in front of an implementation, where it has no default. -/
def spelledBounded (p : GenericParameter) : List Tree :=
  p.attributes.flatMap Attribute.spelled ++ p.lead ++ p.name ++ p.bounds

end GenericParameter

def Field.spelled (f : Field) : List Tree :=
  f.attributes.flatMap Attribute.spelled ++ f.visibility ++ [.ident f.name] ++ Tree.op ":" ++ f.type

/-- A struct with named fields. -/
structure StructItem where
  attributes : List Attribute
  visibility : List Tree
  name : Ident
  generics : Generics
  fields : List Field

/-- The struct with other fields: all else is as it was. -/
def Struct.item (s : Struct) (fields : List Field) : StructItem where
  attributes := s.attributes
  visibility := s.visibility
  name := s.name
  generics := s.generics
  fields := fields

namespace StructItem

def trees (i : StructItem) : List Tree :=
  i.attributes.flatMap Attribute.spelled ++ i.visibility ++ [.word "struct", .ident i.name]
    ++ i.generics.spelled GenericParameter.spelled ++ i.generics.conditions
    ++ [.group .brace (spelledList (i.fields.map Field.spelled) false)]

/-- The code prints a struct with other fields as it is spelled out. -/
theorem trees_item (s : Struct) (fields : List Field) : (s.item fields).trees = s.treesWith fields := by
  have declared : GenericParameter.spelled = GenericParameter.declared := by
    funext p
    simp only [GenericParameter.spelled, GenericParameter.declared, GenericParameter.bounded, Attribute.flatMap_spelled]
  have field : Field.spelled = Field.trees := by
    funext f
    simp only [Field.spelled, Field.trees, Attribute.flatMap_spelled]
  simp only [trees, Struct.item, Struct.treesWith, Struct.heading, Generics.declared, Attribute.flatMap_spelled,
    Generics.spelled_eq, declared, field]
  rfl

end StructItem

end StoredProperty.Source
