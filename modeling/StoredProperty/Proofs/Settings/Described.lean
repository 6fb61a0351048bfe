import StoredProperty.Proofs.Accessor.Meaning
import StoredProperty.Proofs.Expansion.Batch
import StoredProperty.Proofs.Implementation.Fields
import StoredProperty.Settings.App

/-!
# The settings, described twice

The properties of the application's settings are described by declarations, which are expanded as a list, and by the
marked fields of a struct, which is expanded into methods. The accessors mean what the properties do to any stores, and
the code of the methods does it when it is run: `App.described_alike`. The descriptions do not have the same texts,
since a mark is printed from its tokens; so the text of a store is looked up as the expression that it is.
-/

namespace StoredProperty

open Source

/-! ## The other store -/

namespace Property

variable {p : Property} {place : Place}

/-- An operation on the other store does not show in a getter. -/
theorem get_after_of_ne (other : place ≠ p.place) (s : Stores) (op : StoreOperation) :
    p.get (s.after place op) = p.get s := by
  refine get_congr ?_
  rw [Stores.value?_after, Step.effect, if_neg other]
  rfl

theorem get_afterAll_of_ne (other : place ≠ p.place) (s : Stores) (ops : List StoreOperation) :
    p.get (s.afterAll place ops) = p.get s := by
  induction ops generalizing s with
  | nil => rfl
  | cons op ops ih => exact (ih (s.after place op)).trans (get_after_of_ne other s op)

end Property

namespace App

/-! ## The account store -/

/-- The call that gives the store for account data. -/
def accountCall : Expr := .call (.path ⟨false, [⟨.plain "account_store", []⟩]⟩) [] false

def accountTrees : List Tree := [.word "account_store", Tree.paren []]

/-- The text of the call as it is declared, and as it is printed from its tokens. -/
inductive AccountText : String → Prop
  | declared : AccountText "account_store()"
  | printed : AccountText "account_store ()"

set_option maxRecDepth 10000 in
/-- Both texts of the account store have the same tokens. -/
theorem AccountText.read?_eq {source : String} (h : AccountText source) : Tree.read? source = some accountTrees := by
  cases h with
  | declared => rfl
  | printed => rfl

theorem AccountText.filled {source : String} (h : AccountText source) : Text.trim source ≠ "" := by
  cases h with
  | declared => decide
  | printed => decide

/-- The only store of the settings that is known by an expression. -/
def store? (e : Expr) : Option Place := if e.text = "account_store ()" then some .own else none

set_option maxRecDepth 10000 in
/-- Both texts are looked up as the one call. -/
theorem AccountText.place?_eq {source : String} (h : AccountText source) :
    (StoreRef.expr source).place? store? = some .own := by
  have call : Expr.read ⟨accountTrees, none⟩ = .ok (accountCall, ⟨[], none⟩) := by
    have read : Expr.read ⟨accountTrees, none⟩ =
        .ok (accountCall, ⟨[], (none : Option Delimiter).or (unread .parenthesis [])⟩) := rfl
    rw [read, unread_nil]
    rfl
  have text : accountCall.text = "account_store ()" := by decide +kernel
  rw [StoreRef.place?, Expr.ofText_of_trees h.read?_eq (Reader.all_of_reads call)]
  simp only [store?, text, if_true]

/-! ## The specs -/

/-- The spec has an accessor, and declares the property. -/
structure Described (spec : PropertySpec) (p : Property) : Prop where
  complete : spec.Complete
  declares : spec.Declares store? p

def notificationSpec : PropertySpec :=
  { name := "enable_notification", default := .ofLiteral (.bool false), key := some "\"enable_notification\"" }

def userSpec (store : String) : PropertySpec :=
  { name := "user_id", default := .ofLiteral (.str ""), store := some store }

def countSpec : PropertySpec := { name := "delete_count", default := .ofLiteral (.int 0) }

theorem described_notification : Described notificationSpec enableNotification := by
  have key : keyText? "\"enable_notification\"" = some "enable_notification" := by
    have quoted : Text.quoted "enable_notification" = "\"enable_notification\"" := by decide +kernel
    rw [← quoted, keyText?_quoted]
  have filled : ∀ source, notificationSpec.key = some source → Text.trim source ≠ "" := by
    rintro source ⟨⟩
    decide
  have default : Text.trim "false" ≠ "" := by decide
  constructor
  · exact ⟨⟨_, .bool false⟩, filled, nofun, default⟩
  · exact ⟨key, rfl, evaluate?_of_readsAs (Expr.readsAs_bool false), .bool false⟩

theorem described_user {store : String} (h : AccountText store) : Described (userSpec store) userId := by
  have filled : ∀ source, (userSpec store).store = some source → Text.trim source ≠ "" := by
    rintro source ⟨⟩
    exact h.filled
  constructor
  · exact ⟨⟨_, .str ""⟩, nofun, filled, Text.trim_quoted_ne ""⟩
  · exact ⟨keyText?_quoted "user_id", h.place?_eq, evaluate?_of_readsAs (Expr.readsAs_str ""), .str ""⟩

theorem described_count : Described countSpec deleteCount := by
  have default : Text.trim (Literal.int 0).source ≠ "" := by decide
  constructor
  · exact ⟨⟨_, .int 0⟩, nofun, nofun, default⟩
  · exact ⟨keyText?_quoted "delete_count", rfl, evaluate?_of_readsAs (Expr.readsAs_int 0), .int 0⟩

/-- A declaration of a property, read and expanded. -/
theorem Described.exists_accessor {spec : PropertySpec} {p : Property} {d : Declaration} (h : Described spec p)
    (read : PropertySpec.ofDeclaration d = .ok spec) :
    ∃ a, Config.expand {} d = .ok a ∧ a.Implements store? p ∧ ∃ get set, a.HasBodies get set :=
  Config.exists_implements read h.complete h.declares {}

/-! ## The declarations -/

theorem exists_property? {name : String} (listed : name ∈ ["enable_notification", "user_id", "delete_count"]) :
    ∃ p, property? name = some p := by
  simp only [List.mem_cons, List.not_mem_nil, or_false] at listed
  rcases listed with rfl | rfl | rfl
  · exact ⟨enableNotification, rfl⟩
  · exact ⟨userId, rfl⟩
  · exact ⟨deleteCount, rfl⟩

theorem mem_of_property? {name : String} {p : Property} (known : property? name = some p) :
    (name, p) ∈ [("enable_notification", enableNotification), ("user_id", userId), ("delete_count", deleteCount)] := by
  obtain ⟨before, after, parts, -⟩ := List.lookup_eq_some_iff.1 known
  rw [parts]
  exact List.mem_append_right before List.mem_cons_self

/-- Each property has a declaration, which is read as a spec of it. -/
theorem exists_declared {name : String} {p : Property} (known : property? name = some p) :
    ∃ d spec, declarations.find? (·.name = name) = some d ∧ PropertySpec.ofDeclaration d = .ok spec ∧
      Described spec p := by
  have listed := mem_of_property? known
  simp only [List.mem_cons, Prod.mk.injEq, List.not_mem_nil, or_false] at listed
  rcases listed with ⟨rfl, rfl⟩ | ⟨rfl, rfl⟩ | ⟨rfl, rfl⟩
  · exact ⟨_, notificationSpec, rfl, rfl, described_notification⟩
  · exact ⟨_, userSpec "account_store()", rfl, rfl, described_user .declared⟩
  · exact ⟨_, countSpec, rfl, rfl, described_count⟩

/-- Each property has an accessor among those of the declarations, which implements it. -/
theorem exists_accessor? {name : String} {p : Property} (known : property? name = some p) :
    ∃ a, (Config.expandAll {} declarations).accessor? name = some a ∧ a.Implements store? p := by
  obtain ⟨d, spec, found, read, described⟩ := exists_declared known
  obtain ⟨a, built, means, -⟩ := described.exists_accessor read
  refine ⟨a, ?_, means⟩
  rw [Config.accessor?_expandAll, found, Option.bind_some, built]
  rfl

/-! ## The fields -/

def mark (arguments : List Tree) : Attribute :=
  { path := .ofName (.plain Mark.fieldName), content := .list .parenthesis arguments }

/-- A field of the settings under its comment. -/
def field (comment name type : String) (arguments : List Tree) : Field where
  attributes := [.comment comment, mark arguments]
  visibility := [.word "pub"]
  name := .plain name
  type := [.word type]

/-- The tokens of a labeled argument. -/
def labeled (label : String) (value : List Tree) : List Tree := .word label :: Tree.op "=" ++ value

def notificationArguments : List Tree :=
  labeled "default_value" [.word "false"] ++ Tree.op "," ++ labeled "key" [.literal "\"enable_notification\""]

def userArguments : List Tree :=
  labeled "default_value" [.literal "\"\""] ++ Tree.op "," ++ labeled "store" accountTrees

def countArguments : List Tree := labeled "default_value" [.literal "0"]

def fields : List Field :=
  [field " Whether reminders are delivered as notifications." "enable_notification" "bool" notificationArguments,
    field " Identifier of the signed-in user; empty when signed out." "user_id" "String" userArguments,
    field " How many items the user has deleted." "delete_count" "i64" countArguments]

/-- The struct of the settings. All its fields are marked, so that none of them is left in it. -/
def settings : Struct where
  attributes :=
    [.comment " User-facing settings.", .comment "",
      .comment " Carries no data of its own: every accessor reads and writes a store.",
      { path := .ofName (.plain "derive")
        content := .list .parenthesis
          (spelledList (["Debug", "Default", "Clone", "Copy"].map fun w => [Tree.word w]) false) }]
  visibility := [.word "pub"]
  name := .plain "AppSettings"
  generics := .none
  fields := .named fields true

/-- A labeled argument as an expression. -/
def assigned (label : String) (value : Expr) : Expr := .assign (.path ⟨false, [⟨.plain label, []⟩]⟩) value

/-- A mark is read into the arguments that its expressions are. -/
theorem declaration_field {comment name type : String} {tokens : List Tree} {es : List Expr} {trailing : Bool}
    {arguments : List Argument} (read : Reader.all (Reader.commas Expr.read) tokens = .ok (es, trailing))
    (normalized : es.map Argument.ofExpr = arguments) :
    (field comment name type tokens).declaration (mark tokens) = .ok ⟨name, some arguments⟩ := by
  simp only [Field.declaration, mark, Attribute.arguments, Attribute.expressions, read, ← normalized]
  rfl

set_option maxRecDepth 10000 in
theorem declaration_notification {comment name type : String} :
    (field comment name type notificationArguments).declaration (mark notificationArguments) =
      .ok ⟨name, some [⟨some "default_value", .bool false, "false"⟩,
        ⟨some "key", .str "enable_notification", "\"enable_notification\""⟩]⟩ := by
  have read : Reader.all (Reader.commas Expr.read) notificationArguments =
      .ok ([assigned "default_value" (.bool false), assigned "key" (.literal "\"enable_notification\"")], false) :=
    Reader.all_of_reads rfl
  exact declaration_field read (by decide +kernel)

set_option maxRecDepth 10000 in
theorem declaration_user {comment name type : String} :
    (field comment name type userArguments).declaration (mark userArguments) =
      .ok ⟨name, some [⟨some "default_value", .str "", "\"\""⟩,
        ⟨some "store", .unsupported "account_store ()", "account_store ()"⟩]⟩ := by
  have read : Reader.commas Expr.read ⟨userArguments, none⟩ =
      .ok (([assigned "default_value" (.literal "\"\""), assigned "store" accountCall], false),
        ⟨[], (none : Option Delimiter).or (unread .parenthesis [])⟩) := rfl
  rw [unread_nil] at read
  exact declaration_field (Reader.all_of_reads read) (by decide +kernel)

set_option maxRecDepth 10000 in
theorem declaration_count {comment name type : String} :
    (field comment name type countArguments).declaration (mark countArguments) =
      .ok ⟨name, some [⟨some "default_value", .int 0, "0"⟩]⟩ := by
  have read : Reader.all (Reader.commas Expr.read) countArguments =
      .ok ([assigned "default_value" (.literal "0")], false) := Reader.all_of_reads rfl
  exact declaration_field read (by decide +kernel)

/-- The marks say the same as the declarations, but for the text of the account store. -/
theorem exists_declared_field {f : Field} (h : f ∈ fields) :
    ∃ p tokens d spec, property? f.name.name = some p ∧ f.marks = [mark tokens] ∧
      f.declaration (mark tokens) = .ok d ∧ PropertySpec.ofDeclaration d = .ok spec ∧ Described spec p := by
  simp only [fields, List.mem_cons, List.not_mem_nil, or_false] at h
  rcases h with rfl | rfl | rfl
  · exact ⟨enableNotification, _, _, notificationSpec, rfl, rfl, declaration_notification, rfl, described_notification⟩
  · exact ⟨userId, _, _, userSpec "account_store ()", rfl, rfl, declaration_user, rfl, described_user .printed⟩
  · exact ⟨deleteCount, _, _, countSpec, rfl, rfl, declaration_count, rfl, described_count⟩

/-- What a field gives is a getter and a setter, and to run their code is to get and to set a property. -/
inductive Gives (f : Field) (p : Property) : Contribution → Prop
  | methods {get set : Body}
      (contributes : f.Contributes (.methods (.getter f f.comments get) (.setter f set)))
      (gets : ∀ s, get.run? store? none s = some (some (p.get s), s))
      (sets : ∀ v s, set.run? store? (some v) s = some (none, p.set v s)) :
      Gives f p (.methods (.getter f f.comments get) (.setter f set))

theorem Gives.contributes {f : Field} {p : Property} {c : Contribution} (h : Gives f p c) : f.Contributes c := by
  cases h
  assumption

/-- The code of an accessor that implements a property gets and sets the property. -/
theorem gives_of_implements {f : Field} {p : Property} {mark : Attribute} {d : Declaration} {a : Accessor}
    {get set : Body} (one : f.marks = [mark]) (declared : f.declaration mark = .ok d)
    (built : Config.expand {} d = .ok a) (bodies : a.HasBodies get set) (means : a.Implements store? p) :
    Gives f p (.methods (.getter f f.comments get) (.setter f set)) := by
  obtain ⟨arguments, normalized, rfl⟩ := Field.declaration_eq_ok_iff.1 declared
  refine .methods (.succeeds one ⟨normalized, built, bodies⟩) (fun s => ?_) (fun v s => ?_)
  · rw [bodies.run?_getter, means.get]
    rfl
  · rw [bodies.run?_setter, means.set]
    rfl

/-- Every field of the settings gives the methods of the property of its name. -/
theorem exists_gives {f : Field} (listed : f ∈ fields) : ∃ c p, property? f.name.name = some p ∧ Gives f p c := by
  obtain ⟨p, tokens, d, spec, known, marked, declared, read, described⟩ := exists_declared_field listed
  obtain ⟨a, built, means, get, set, bodies⟩ := described.exists_accessor read
  exact ⟨_, p, known, gives_of_implements marked declared built bodies means⟩

/-- The expansion of the struct holds, for each field, methods that get and set the property of its name. -/
theorem exists_expand_settings :
    ∃ cs, List.Forall₂ (fun f c => ∃ p, property? f.name.name = some p ∧ Gives f p c) fields cs ∧
      ∀ library, settings.expand [] library = settings.treesOf library cs := by
  have : Nonempty Contribution := ⟨.error (.syntaxError "")⟩
  have one : ∀ f ∈ fields, ∃ c p, property? f.name.name = some p ∧ Gives f p c := fun f => exists_gives
  choose! c gives using one
  have each : List.Forall₂ (fun f c => ∃ p, property? f.name.name = some p ∧ Gives f p c) fields (fields.map c) :=
    List.forall₂_map_right_iff.2 (List.forall₂_same.2 gives)
  refine ⟨fields.map c, each, Struct.expand_of_named rfl (each.imp ?_)⟩
  rintro f c ⟨p, -, given⟩
  exact given.contributes

/-! ## Setters and the user -/

/-- An action writes one of the three properties. -/
theorem write?_property {s : Stores} {action : Action} {p : Property} {v : StoredValue}
    (h : action.write? s = some (p, v)) : ∃ name, property? name = some p := by
  cases action with
  | enableNotification b => cases h; exact ⟨"enable_notification", rfl⟩
  | setUser user => cases h; exact ⟨"user_id", rfl⟩
  | setDeleteCount n => cases h; exact ⟨"delete_count", rfl⟩
  | recordDelete =>
    obtain ⟨n, -, same⟩ := Option.map_eq_some_iff.1 h
    cases same
    exact ⟨"delete_count", rfl⟩

/-- Somebody is signed in when the cell holds a text with something in it. -/
theorem signedIn_iff (s : Stores) :
    signedIn s = true ↔ ∃ user, s.own.value? "user_id" = some (.string user) ∧ user ≠ "" := by
  have cell : s.value? userId.place userId.key = s.own.value? "user_id" := rfl
  rw [signedIn, Property.get_eq, cell]
  cases s.own.value? "user_id" with
  | none => simp [userId]
  | some v => cases v <;> simp [userId, StoredValue.readAs, StoredValue.asText?]

/-- **The two descriptions of the settings are alike.** For each property the declarations give an accessor, which
answers as the property's getter does and changes the stores as its setter does; operations on one store leave the
answers from the other. What an action does to the stores is what the accessor of the property that it sets does. The
marked fields give accessors of the same meaning. The expansion of the struct is the struct without the fields, and the
methods made of these accessors: the code of each getter answers as the property's getter and leaves the stores alone,
and the code of each setter changes the stores as the property's setter. Somebody is signed in when the account store
holds a text that is not empty. -/
theorem described_alike :
    (∀ name ∈ ["enable_notification", "user_id", "delete_count"], ∃ p a, property? name = some p ∧
      (Config.expandAll {} declarations).accessor? name = some a ∧ a.Implements store? p ∧
      ∀ place, place ≠ p.place → ∀ s ops, p.get (s.afterAll place ops) = p.get s ∧
        a.get.answer? store? (s.afterAll place ops) = a.get.answer? store? s) ∧
    (∀ s action after events, perform? s action = some (after, events) → ∃ name p v a,
      action.write? s = some (p, v) ∧ after = p.set v s ∧ property? name = some p ∧
      (Config.expandAll {} declarations).accessor? name = some a ∧ a.set.after? store? v s = some after) ∧
    -- the fields, and the code that is made of them
    fields.map (·.name.name) = ["enable_notification", "user_id", "delete_count"] ∧
    (∀ f ∈ fields, ∃ mark d p a, f.marks = [mark] ∧ f.declaration mark = .ok d ∧ Config.expand {} d = .ok a ∧
      property? f.name.name = some p ∧ a.Implements store? p) ∧
    (∃ cs, List.Forall₂ (fun f c => ∃ p, property? f.name.name = some p ∧ Gives f p c) fields cs ∧
      ∀ library, settings.expand [] library = settings.treesOf library cs) ∧
    ∀ s, signedIn s = true ↔ ∃ user, s.own.value? "user_id" = some (.string user) ∧ user ≠ "" := by
  refine ⟨fun name listed => ?_, fun s action after events done => ?_, rfl, fun f listed => ?_,
    exists_expand_settings, signedIn_iff⟩
  · obtain ⟨p, known⟩ := exists_property? listed
    obtain ⟨a, found, means⟩ := exists_accessor? known
    refine ⟨p, a, known, found, means, fun place other s ops => ?_⟩
    have same : p.get (s.afterAll place ops) = p.get s := Property.get_afterAll_of_ne other s ops
    exact ⟨same, by rw [means.get, means.get, same]⟩
  · obtain ⟨⟨p, v⟩, written, same⟩ := Option.map_eq_some_iff.1 done
    cases same
    obtain ⟨name, known⟩ := write?_property written
    obtain ⟨a, found, means⟩ := exists_accessor? known
    exact ⟨name, p, v, a, written, rfl, known, found, means.set v s⟩
  · obtain ⟨p, tokens, d, spec, known, marked, declared, read, described⟩ := exists_declared_field listed
    obtain ⟨a, built, means, -⟩ := described.exists_accessor read
    exact ⟨mark tokens, d, p, a, marked, declared, built, known, means⟩

/-- What is under the key is not a text, so it signs nobody in. -/
example : signedIn ⟨(MemoryStore.named accountName).set "user_id" (.bool true), .standard⟩ = false := rfl

end App

end StoredProperty
