import StoredProperty.Expansion
import StoredProperty.Proofs.Declaration.Arguments
import StoredProperty.Proofs.Declaration.Spec

/-!
# Ways of writing a spec

A spec can be written as a declaration in many ways (`PropertySpec.WrittenAs`): with white space around its name, with
either label on the default, and with the arguments in any order. Each of them is read as the spec
(`PropertySpec.read_written_back`), so they all expand as the spec itself does.
-/

namespace StoredProperty

open Argument

/-- The labels of a default. -/
def Label.defaultTexts : List String := ["default_value", "defaultValue"]

theorem Label.ofText?_of_mem_defaultTexts {text : String} (h : text ∈ defaultTexts) : ofText? text = some default := by
  simp only [defaultTexts, List.mem_cons, List.not_mem_nil, or_false] at h
  rcases h with rfl | rfl <;> rfl

namespace PropertySpec

/-- The arguments for the key or the store of a spec: the text stands in one of them, with any literal, if there is
one. -/
inductive PartWrittenAs (label : Label) : Option String → List Argument → Prop
  | absent : PartWrittenAs label none []
  | given (literal : Literal) (source : String) :
      PartWrittenAs label (some source) [⟨some label.text, literal, source⟩]

/-- A declaration of what the spec says. -/
inductive WrittenAs (s : PropertySpec) : Declaration → Prop
  | intro {before after label : String} {keys stores arguments : List Argument}
      (blankBefore : ∀ c ∈ before.toList, Text.isBlank c = true)
      (blankAfter : ∀ c ∈ after.toList, Text.isBlank c = true)
      (spelling : label ∈ Label.defaultTexts)
      (key : PartWrittenAs .key s.key keys)
      (store : PartWrittenAs .store s.store stores)
      (order : arguments.Perm (⟨some label, s.default.literal, s.default.source⟩ :: (keys ++ stores))) :
      WrittenAs s ⟨before ++ s.name ++ after, some arguments⟩

variable {s : PropertySpec} {label : String} {keys stores : List Argument}

section Arguments

variable (spelling : label ∈ Label.defaultTexts) (key : PartWrittenAs .key s.key keys)
  (store : PartWrittenAs .store s.store stores)

include spelling key store

/-- A spec is written back with labels that are known and single. -/
theorem distinct_written : Distinct (⟨some label, s.default.literal, s.default.source⟩ :: (keys ++ stores)) := by
  have read := Label.ofText?_of_mem_defaultTexts spelling
  obtain ⟨name, default, k, t⟩ := s
  cases key <;> cases store <;> constructor <;> simp [meaning?, read, Label.ofText?_text]

theorem ofArguments_written :
    Given.ofArguments (⟨some label, s.default.literal, s.default.source⟩ :: (keys ++ stores)) =
      ⟨some s.default, s.key, s.store⟩ := by
  have read := Label.ofText?_of_mem_defaultTexts spelling
  obtain ⟨name, default, k, t⟩ := s
  cases key <;> cases store <;> simp [Given.ofArguments, ofMeaning?, meaning?, read, Label.ofText?_text]

/-- In whatever order the arguments are written, the same is read. -/
theorem foldlM_written {arguments : List Argument}
    (order : arguments.Perm (⟨some label, s.default.literal, s.default.source⟩ :: (keys ++ stores))) :
    arguments.foldlM Given.take {} = .ok ⟨some s.default, s.key, s.store⟩ := by
  have distinct : Distinct arguments := (distinct_written spelling key store).perm order.symm
  have same := ofMeaning?_perm distinct order
  rw [Given.foldlM_take distinct, ← ofArguments_written spelling key store]
  simp only [Given.ofArguments, same]

end Arguments

variable {d : Declaration}

theorem trim_written (trimmed : Text.trim s.name = s.name) (written : s.WrittenAs d) : Text.trim d.name = s.name := by
  obtain ⟨blankBefore, blankAfter⟩ := written
  rw [Text.trim_padded blankBefore blankAfter, trimmed]

/-- A spec that was written is read back. -/
theorem ofDeclaration_of_writtenAs (named : Text.trim s.name ≠ "") (trimmed : Text.trim s.name = s.name)
    (written : s.WrittenAs d) : ofDeclaration d = .ok s := by
  have name := trim_written trimmed written
  obtain ⟨-, -, spelling, key, store, order⟩ := written
  rw [ofDeclaration_of_given rfl (by rwa [name, ← trimmed]) (foldlM_written spelling key store order) rfl, name]

end PropertySpec

/-- A declaration that is read as a spec expands as the spec does. -/
theorem Config.expand_of_read {s : PropertySpec} {d : Declaration} (read : PropertySpec.ofDeclaration d = .ok s)
    (c : Config) : c.expand d = c.expandSpec s := by
  rw [expand, read]
  rfl

namespace PropertySpec

variable {s : PropertySpec} {d : Declaration}

/-- **Every way of writing a spec is read as the spec** and expands as the spec does, whether it succeeds or fails. So
it makes no difference which way is taken. -/
theorem read_written_back (named : Text.trim s.name ≠ "") (trimmed : Text.trim s.name = s.name)
    (written : s.WrittenAs d) :
    ofDeclaration d = .ok s ∧ (∀ c : Config, c.expand d = c.expandSpec s) ∧
    ∀ other, s.WrittenAs other → ∀ c : Config, c.expand other = c.expand d := by
  have read := ofDeclaration_of_writtenAs named trimmed written
  refine ⟨read, Config.expand_of_read read, fun other written' c => ?_⟩
  have read' := ofDeclaration_of_writtenAs named trimmed written'
  rw [Config.expand_of_read read, Config.expand_of_read read']

/-- The store first, the default under its other label, and the name between two kinds of white space. -/
theorem read_written_back_padded :
    let s : PropertySpec := ⟨"größe", ⟨.int 10, "5 + 5"⟩, some "KEY", some "self.store"⟩
    let d : Declaration :=
      ⟨"\u3000größe\t", some [⟨some "store", .bool true, "self.store"⟩, ⟨some "defaultValue", .int 10, "5 + 5"⟩,
        ⟨some "key", .unsupported "KEY", "KEY"⟩]⟩
    let store : StoreRef := .expr "self.store"
    Text.trim s.name ≠ "" ∧ Text.trim s.name = s.name ∧ s.WrittenAs d ∧ ofDeclaration d = .ok s ∧
      (Config.expand {} d).toOption = some ⟨.int, ⟨store, "KEY", "5 + 5", .integer⟩, ⟨store, "KEY"⟩⟩ := by
  intro s d store
  have named : Text.trim s.name ≠ "" := by decide
  have trimmed : Text.trim s.name = s.name := by decide
  have written : s.WrittenAs d :=
    @WrittenAs.intro s "\u3000" "\t" "defaultValue" _ _ _ (List.all_eq_true.1 (by decide))
      (List.all_eq_true.1 (by decide)) (by decide) (.given (.unsupported "KEY") "KEY") (.given (.bool true) "self.store") (by decide)
  obtain ⟨read, expands, -⟩ := read_written_back named trimmed written
  refine ⟨named, trimmed, written, read, ?_⟩
  rw [expands]
  decide

end PropertySpec

end StoredProperty
