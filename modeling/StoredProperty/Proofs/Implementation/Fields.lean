import Mathlib.Data.List.Forall2
import StoredProperty.Implementation
import StoredProperty.Proofs.Accessor.Method
import StoredProperty.Proofs.Source.Scalar
import StoredProperty.Proofs.Source.StringLiteral

/-!
# What each field gives to the output

A field stays in the struct, or gives a getter and a setter, or gives an error. `Source.Field.Contributes` says which,
and looks at nothing but the field. The output is a struct, an implementation and errors, each spelled out token by
token and put together from what the fields give, in their order: `Source.Struct.expand_fieldwise`.
-/

namespace StoredProperty

open Source

/-- What a field gives to the output. -/
inductive Contribution where
  | kept (f : Field)
  | methods (getter setter : Method)
  | error (d : Diagnostic)

namespace Contribution

def kept? : Contribution → Option Field
  | kept f => some f
  | _ => none

def methodList : Contribution → List Method
  | methods getter setter => [getter, setter]
  | _ => []

def error? : Contribution → Option Diagnostic
  | error d => some d
  | _ => none

def outcome (library : List Tree) : Contribution → FieldOutcome
  | kept f => .kept f
  | methods getter setter => .methods (getter.trees library ++ setter.trees library)
  | error d => .failed d

end Contribution

namespace Source.Field

variable {f : Field} {mark : Attribute} {library tokens : List Tree} {d : Diagnostic} {c c' : Contribution}

/-- The marks of a field. -/
def marks (f : Field) : List Attribute := f.attributes.filter Attribute.isMark

/-- The accessor of a field with one mark has been expanded from the mark's arguments, and its bodies made. -/
inductive Succeeds (f : Field) (mark : Attribute) : Body → Body → Prop
  | intro {arguments : Option (List Argument)} {a : Accessor} {get set : Body}
      (normalized : mark.arguments = .ok arguments)
      (expanded : Config.expand {} ⟨f.name.name, arguments⟩ = .ok a)
      (generated : a.HasBodies get set) : Succeeds f mark get set

/-- The diagnostic of the stage that fails: the arguments are read first, then the declaration is expanded, then the
texts of the accessor are read. -/
inductive Fails (f : Field) (mark : Attribute) : Diagnostic → Prop
  | arguments {d : Diagnostic} (failed : mark.arguments = .error d) : Fails f mark d
  | expansion {arguments : Option (List Argument)} {d : Diagnostic}
      (normalized : mark.arguments = .ok arguments)
      (failed : Config.expand {} ⟨f.name.name, arguments⟩ = .error d) : Fails f mark d
  | code {arguments : Option (List Argument)} {a : Accessor} {d : Diagnostic}
      (normalized : mark.arguments = .ok arguments)
      (expanded : Config.expand {} ⟨f.name.name, arguments⟩ = .ok a)
      (failed : Accessor.FailsToRead a.texts d) : Fails f mark d

/-- The three places a field goes to. -/
inductive Contributes (f : Field) : Contribution → Prop
  | unmarked (none : f.marks = []) : Contributes f (.kept f)
  | succeeds {mark : Attribute} {get set : Body} (one : f.marks = [mark]) (both : f.Succeeds mark get set) :
      Contributes f (.methods (Method.getter f f.comments get) (Method.setter f set))
  | fails {mark : Attribute} {d : Diagnostic} (one : f.marks = [mark]) (failure : f.Fails mark d) :
      Contributes f (.error d)
  | duplicate (more : 2 ≤ f.marks.length) :
      Contributes f (.error (.syntaxError "duplicate `#[store_access]` attribute"))

/-- A field is declared under its name without the mark of raw names. -/
theorem declaration_eq_ok_iff {r : Declaration} :
    f.declaration mark = .ok r ↔ ∃ arguments, mark.arguments = .ok arguments ∧ r = ⟨f.name.name, arguments⟩ := by
  rw [declaration]
  cases mark.arguments <;> simp [Except.map, eq_comm]

theorem declaration_eq_error_iff : f.declaration mark = .error d ↔ mark.arguments = .error d := by
  rw [declaration]
  cases mark.arguments <;> simp [Except.map]

/-- The tokens of a field's methods are those of a getter and a setter. -/
theorem methods_eq_ok_iff :
    f.methods mark library = .ok tokens ↔
      ∃ get set, f.Succeeds mark get set ∧
        tokens = (Method.getter f f.comments get).trees library ++ (Method.setter f set).trees library := by
  simp only [methods, bind_eq_ok_iff, declaration_eq_ok_iff, Accessor.methods_eq_ok_iff]
  constructor
  · rintro ⟨_, ⟨arguments, normalized, rfl⟩, a, expanded, get, set, generated, tokens⟩
    exact ⟨get, set, ⟨normalized, expanded, generated⟩, tokens⟩
  · rintro ⟨get, set, ⟨normalized, expanded, generated⟩, tokens⟩
    exact ⟨_, ⟨_, normalized, rfl⟩, _, expanded, get, set, generated, tokens⟩

/-- A field has no methods when one of the stages fails, and the error is that of the first that does. -/
theorem methods_eq_error_iff : f.methods mark library = .error d ↔ f.Fails mark d := by
  simp only [methods, bind_eq_error_iff, declaration_eq_ok_iff, declaration_eq_error_iff,
    Accessor.methods_eq_error_iff]
  constructor
  · rintro (failed | ⟨_, ⟨arguments, normalized, rfl⟩, failed | ⟨a, expanded, failed⟩⟩)
    · exact .arguments failed
    · exact .expansion normalized failed
    · exact .code normalized expanded failed
  · rintro (failed | ⟨normalized, failed⟩ | ⟨normalized, expanded, failed⟩)
    · exact .inl failed
    · exact .inr ⟨_, ⟨_, normalized, rfl⟩, .inl failed⟩
    · exact .inr ⟨_, ⟨_, normalized, rfl⟩, .inr ⟨_, expanded, failed⟩⟩

/-- The code does with a field what the field gives. -/
theorem Contributes.outcome_eq (h : f.Contributes c) (library : List Tree) :
    f.outcome library = c.outcome library := by
  cases h with
  | unmarked none =>
    rw [marks] at none
    rw [outcome, none]
    rfl
  | succeeds one both =>
    rw [marks] at one
    simp only [outcome, one, methods_eq_ok_iff.2 ⟨_, _, both, rfl⟩]
    rfl
  | fails one failure =>
    rw [marks] at one
    simp only [outcome, one, methods_eq_error_iff.2 failure]
    rfl
  | duplicate more =>
    rw [marks] at more
    rw [outcome]
    match found : f.attributes.filter Attribute.isMark with
    | [] => simp [found] at more
    | [mark] => simp [found] at more
    | _ :: _ :: _ => rfl

/-- Every field gives something: it has no mark, or one that leads to methods or to an error, or too many. -/
theorem exists_contributes (f : Field) : ∃ c, f.Contributes c := by
  match marked : f.marks with
  | [] => exact ⟨_, .unmarked marked⟩
  | [mark] =>
    cases result : f.methods mark [] with
    | ok tokens =>
      obtain ⟨get, set, both, -⟩ := methods_eq_ok_iff.1 result
      exact ⟨_, .succeeds marked both⟩
    | error d => exact ⟨_, .fails marked (methods_eq_error_iff.1 result)⟩
  | _ :: _ :: _ => exact ⟨_, .duplicate (by simp [marked])⟩

theorem Succeeds.unique {get set get' set' : Body} (h : f.Succeeds mark get set) (h' : f.Succeeds mark get' set') :
    get = get' ∧ set = set' := by
  obtain ⟨normalized, expanded, generated⟩ := h
  obtain ⟨normalized', expanded', generated'⟩ := h'
  cases normalized.symm.trans normalized'
  cases expanded.symm.trans expanded'
  exact generated.unique generated'

/-- A mark leads to one error. -/
theorem Fails.unique {d' : Diagnostic} (h : f.Fails mark d) (h' : f.Fails mark d') : d = d' := by
  have same : f.methods mark [] = .error d := methods_eq_error_iff.2 h
  rw [methods_eq_error_iff.2 h'] at same
  exact (Except.error.inj same).symm

/-- A mark that leads to methods does not lead to an error. -/
theorem Succeeds.not_fails {get set : Body} (h : f.Succeeds mark get set) : ¬ f.Fails mark d := by
  intro fails
  have same : f.methods mark [] = .error d := methods_eq_error_iff.2 fails
  rw [methods_eq_ok_iff.2 ⟨get, set, h, rfl⟩] at same
  cases same

/-- A field gives one thing. -/
theorem Contributes.unique (h : f.Contributes c) (h' : f.Contributes c') : c = c' := by
  cases h with
  | unmarked none => cases h' <;> simp_all
  | succeeds one both =>
    cases h' with
    | unmarked none => simp [none] at one
    | succeeds one' both' =>
      cases one.symm.trans one'
      obtain ⟨rfl, rfl⟩ := both.unique both'
      rfl
    | fails one' failure =>
      cases one.symm.trans one'
      exact absurd failure both.not_fails
    | duplicate more => simp [one] at more
  | fails one failure =>
    cases h' with
    | unmarked none => simp [none] at one
    | succeeds one' both =>
      cases one.symm.trans one'
      exact absurd failure both.not_fails
    | fails one' failure' =>
      cases one.symm.trans one'
      rw [failure.unique failure']
    | duplicate more => simp [one] at more
  | duplicate more => cases h' <;> simp_all

/-- The fields that are kept are those without a mark. -/
theorem Contributes.kept?_eq (h : f.Contributes c) : c.kept? = if f.marks.isEmpty then some f else none := by
  cases h with
  | unmarked none => simp [none, Contribution.kept?]
  | succeeds one both => simp [one, Contribution.kept?]
  | fails one failure => simp [one, Contribution.kept?]
  | duplicate more =>
    have some : f.marks ≠ [] := by
      intro none
      simp [none] at more
    simp [some, Contribution.kept?]

/-! ## All fields -/

variable {fields : List Field} {cs : List Contribution}

theorem exists_forall₂_contributes (fields : List Field) : ∃ cs, List.Forall₂ Contributes fields cs := by
  choose c contributes using exists_contributes
  exact ⟨fields.map c, List.forall₂_map_right_iff.2 (List.forall₂_same.2 fun f _ => contributes f)⟩

theorem rightUnique_contributes : Relator.RightUnique Contributes := fun _ _ _ h h' => h.unique h'

/-- The code does with all fields what they give. -/
theorem map_outcome_eq (h : List.Forall₂ Contributes fields cs) (library : List Tree) :
    fields.map (·.outcome library) = cs.map (·.outcome library) := by
  induction h with
  | nil => rfl
  | cons first _ ih => simp only [List.map_cons, first.outcome_eq, ih]

/-- The fields that are kept are those without a mark, in their order. -/
theorem filterMap_kept?_eq (h : List.Forall₂ Contributes fields cs) :
    cs.filterMap Contribution.kept? = fields.filter (·.marks.isEmpty) := by
  induction h with
  | nil => rfl
  | @cons f c fields cs first _ ih =>
    rw [List.filterMap_cons, first.kept?_eq, List.filter_cons, ih]
    cases f.marks.isEmpty <;> rfl

/-- Another field at a position, and what it gives. -/
theorem forall₂_contributes_set (h : List.Forall₂ Contributes fields cs) (first : f.Contributes c) (i : Nat) :
    List.Forall₂ Contributes (fields.set i f) (cs.set i c) := by
  induction h generalizing i with
  | nil => exact .nil
  | cons own rest ih =>
    cases i with
    | zero => exact .cons first rest
    | succ i => exact .cons own (ih i)

end Source.Field

/-! ## The output -/

/-- An implementation for a struct, with methods. -/
structure ImplItem where
  name : Ident
  generics : Generics
  methods : List Method

namespace ImplItem

/-- The parameters stand without their defaults in front, and as names alone behind the name of the struct. -/
def trees (library : List Tree) (i : ImplItem) : List Tree :=
  .word "impl" :: i.generics.spelled GenericParameter.spelledBounded ++ [.ident i.name]
    ++ i.generics.spelled (·.name) ++ i.generics.conditions
    ++ [.group .brace (i.methods.flatMap (·.trees library))]

/-- The code prints an implementation as it is spelled out. -/
theorem trees_eq (s : Struct) (methods : List Method) (library : List Tree) :
    trees library ⟨s.name, s.generics, methods⟩ = s.implementation (methods.flatMap (·.trees library)) := by
  have bounded : GenericParameter.spelledBounded = GenericParameter.bounded := by
    funext p
    simp only [GenericParameter.spelledBounded, GenericParameter.bounded, Attribute.flatMap_spelled]
  simp only [trees, Struct.implementation, Generics.bounded, Generics.named, Generics.spelled_eq, bounded]
  rfl

example :
    let parameter : GenericParameter :=
      ⟨[], false, [], [.word "T"], [.punct ':' false, .word "Copy"], [.punct '=' false, .word "u8"]⟩
    let conditions : List Tree := [.word "where", .word "T", .punct ':' false, .word "Send"]
    Tree.text (trees [] ⟨.plain "Settings", ⟨[parameter], false, conditions⟩, []⟩) =
      "impl < T : Copy > Settings < T > where T : Send \x7b \x7d" := by
  decide +kernel

end ImplItem

/-- The tokens of an error, whose message is a literal between braces. -/
def errorTrees (message : String) : List Tree :=
  Tree.op "::" ++ [.word "core"] ++ Tree.op "::" ++ [.word "compile_error"] ++ Tree.op "!"
    ++ [.group .brace [.literal (StringLiteral.write message.toList)]]

theorem errorTrees_eq (message : String) : errorTrees message = compileError message := rfl

namespace Contribution

/-! The three lists that the output is made of, taken from the contributions. -/

variable (cs : List Contribution) (library : List Tree)

theorem filterMap_kept?_outcome : (cs.map (·.outcome library)).filterMap FieldOutcome.kept? = cs.filterMap kept? := by
  rw [List.filterMap_map]
  exact congrArg (List.filterMap · cs) (funext fun c => by cases c <;> rfl)

theorem filterMap_failed?_outcome :
    (cs.map (·.outcome library)).filterMap FieldOutcome.failed? = cs.filterMap error? := by
  rw [List.filterMap_map]
  exact congrArg (List.filterMap · cs) (funext fun c => by cases c <;> rfl)

/-- The getters and setters stand in the order of their fields. -/
theorem flatten_methods?_outcome :
    ((cs.map (·.outcome library)).filterMap FieldOutcome.methods?).flatten =
      (cs.flatMap methodList).flatMap (·.trees library) := by
  induction cs with
  | nil => rfl
  | cons c cs ih =>
    rw [List.map_cons, List.filterMap_cons, List.flatMap_cons, List.flatMap_append, ← ih]
    cases c with
    | kept f => rfl
    | methods getter setter => simp [outcome, methodList, FieldOutcome.methods?]
    | error d => rfl

end Contribution

namespace Source.Struct

open Source.Field

variable {s : Struct} {fields : List Field} {trailing : Bool} {cs : List Contribution}

/-- The struct with the fields that are kept, an implementation with the methods, and the errors. -/
def treesOf (s : Struct) (library : List Tree) (cs : List Contribution) : List Tree :=
  (s.item (cs.filterMap Contribution.kept?)).trees
    ++ ImplItem.trees library ⟨s.name, s.generics, cs.flatMap Contribution.methodList⟩
    ++ (cs.filterMap Contribution.error?).flatMap fun d => errorTrees d.display

/-- The output is put together from what the fields give. -/
theorem expandFields_eq (h : List.Forall₂ Contributes fields cs) (library : List Tree) :
    s.expandFields fields library = s.treesOf library cs := by
  simp only [expandFields, map_outcome_eq h, Contribution.filterMap_kept?_outcome,
    Contribution.filterMap_failed?_outcome, Contribution.flatten_methods?_outcome]
  simp only [treesOf, StructItem.trees_item, ImplItem.trees_eq, errorTrees_eq]

theorem expand_of_named (named : s.fields = .named fields trailing) (h : List.Forall₂ Contributes fields cs)
    (library : List Tree) : s.expand [] library = s.treesOf library cs := by
  rw [← expandFields_eq h]
  simp [expand, named]

/-- **A struct is expanded field by field.** Each field gives one thing, which depends on nothing else, and the output
is the struct with the fields that are kept and all else as it was, an implementation with the getters and setters, and
the errors, each in the order of the fields. Another field in place of one changes what this one gives and no more. When
the mark of the struct has arguments, or the fields have no names, there is one error and nothing else. -/
theorem expand_fieldwise (s : Struct) (library : List Tree) :
    (∀ arguments, arguments ≠ [] →
      s.expand arguments library = errorTrees "#[store_accessors] does not take arguments") ∧
    ((∀ fields trailing, s.fields ≠ .named fields trailing) →
      s.expand [] library = errorTrees "#[store_accessors] requires a struct with named fields") ∧
    (∀ fields trailing, s.fields = .named fields trailing →
      ∃ cs, List.Forall₂ Contributes fields cs ∧
        (∀ others, List.Forall₂ Contributes fields others → others = cs) ∧
        s.expand [] library = s.treesOf library cs ∧
        cs.filterMap Contribution.kept? = fields.filter (·.marks.isEmpty) ∧
        -- another field at one position
        ∀ i f, ∃ c, f.Contributes c ∧
          { s with fields := .named (fields.set i f) trailing }.expand [] library = s.treesOf library (cs.set i c)) ∧
    -- the literals of errors and comments say what they should
    ∀ text, Text.IsLiteralOf (StringLiteral.write text.toList) text := by
  refine ⟨fun arguments given => ?_, fun unnamed => ?_, fun fields trailing named => ?_, Text.isLiteralOf_write⟩
  · cases arguments with
    | nil => exact absurd rfl given
    | cons t rest => rfl
  · cases kind : s.fields with
    | named fields trailing => exact absurd kind (unnamed fields trailing)
    | tuple body => simp [expand, kind]; rfl
    | unit => simp [expand, kind]; rfl
  · obtain ⟨cs, each⟩ := exists_forall₂_contributes fields
    refine ⟨cs, each, fun others each' => List.right_unique_forall₂' rightUnique_contributes each' each,
      expand_of_named named each library, filterMap_kept?_eq each, fun i f => ?_⟩
    obtain ⟨c, own⟩ := exists_contributes f
    exact ⟨c, own, expand_of_named rfl (forall₂_contributes_set each own i) library⟩

/-- A field without a mark, one with a good mark and a raw name, one with two marks, and one whose mark says nothing. -/
theorem expand_fieldwise_mixed :
    let mark (content : AttributeContent) : Attribute := { path := .ofName (.plain "store_access"), content }
    let kept : Field := ⟨[{ path := .ofName (.plain "serde"), content := .word }], [], .plain "cache", [.word "T"]⟩
    let good : Field :=
      ⟨[mark (.list .parenthesis [.word "default_value", .punct '=' false, .literal "1"])], [.word "pub"],
        ⟨true, "type"⟩, [.word "i64"]⟩
    let twice : Field := ⟨[mark .word, mark .word], [], .plain "level", [.word "i64"]⟩
    let bare : Field := ⟨[mark .word], [], .plain "name", [.word "String"]⟩
    let parameter : GenericParameter :=
      ⟨[], false, [], [.word "T"], [.punct ':' false, .word "Copy"], [.punct '=' false, .word "u8"]⟩
    let s : Struct :=
      ⟨[{ path := .ofName (.plain "derive"), content := .list .parenthesis [.word "Debug"] }], [.word "pub"],
        .plain "Settings", ⟨[parameter], false, [.word "where", .word "T", .punct ':' false, .word "Send"]⟩,
        .named [kept, good, twice, bare] true⟩
    let get : Body := .getter .standard (.literal "\"type\"") (.plain (.literal "1")) .integer
    let set : Body := .setter .standard (.literal "\"type\"")
    s.expand [] [.word "stowage_store"] = s.treesOf [.word "stowage_store"]
      [.kept kept, .methods (.getter good [] get) (.setter good set),
        .error (.syntaxError "duplicate `#[store_access]` attribute"),
        .error (.syntaxError "missing argument list")] := by
  intro mark kept good twice bare parameter s get set
  have stays : kept.Contributes (.kept kept) := .unmarked rfl
  have doubled : twice.Contributes _ := .duplicate (by decide)
  have fails : bare.Contributes (.error (.syntaxError "missing argument list")) := .fails rfl (.expansion rfl rfl)
  have read : Reader.all (Reader.commas Expr.read) [.word "default_value", .punct '=' false, .literal "1"] =
      .ok ([.assign (.path ⟨false, [⟨.plain "default_value", []⟩]⟩) (.literal "1")], false) := Reader.all_of_reads rfl
  have normalized : (mark (.list .parenthesis [.word "default_value", .punct '=' false, .literal "1"])).arguments =
      .ok (some [⟨some "default_value", .int 1, "1"⟩]) := by
    simp only [mark, Attribute.arguments, Attribute.expressions, read]
    rfl
  let a : Accessor := ⟨.int, ⟨.standard, "\"type\"", "1", .integer⟩, ⟨.standard, "\"type\""⟩⟩
  have expanded : Config.expand {} ⟨"type", some [⟨some "default_value", .int 1, "1"⟩]⟩ = .ok a := by decide +kernel
  have quoted : Text.quoted "type" = "\"type\"" := by decide +kernel
  have key : Expr.ofText "\"type\"" = .ok (.literal "\"type\"") :=
    Expr.ofText_of_literal (quoted ▸ Tree.read?_of_isLiteral (Text.isLiteralOf_quoted "type"))
  have value : Expr.ofText "1" = .ok (.literal "1") := Expr.ofText_of_literal rfl
  have succeeds : good.Contributes (.methods (.getter good [] get) (.setter good set)) :=
    .succeeds rfl ⟨normalized, expanded, ⟨.standard, key, value, .standard, key⟩⟩
  obtain ⟨cs, -, unique, output, -⟩ := (expand_fieldwise s [.word "stowage_store"]).2.2.1 _ _ rfl
  have each : cs = _ := (unique _ (.cons stays (.cons succeeds (.cons doubled (.cons fails .nil))))).symm
  exact each ▸ output

end Source.Struct

end StoredProperty
