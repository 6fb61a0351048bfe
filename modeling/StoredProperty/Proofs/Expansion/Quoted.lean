import StoredProperty.Proofs.Accessor.Body
import StoredProperty.Proofs.Expansion.Outcome
import StoredProperty.Proofs.Expansion.Written
import StoredProperty.Proofs.Source.StringLiteral
import StoredProperty.Proofs.Text.Decimal

/-!
# Quoted names and defaults

A derived key and the canonical text of a string are the same quoted text, and it is a literal that stands by itself:
`Text.IsLiteralOf`. So derived keys are told apart by the names they come from, and nothing that a name or a default
holds can break a line of a rendered body: `Config.quoted_faithful`.
-/

namespace StoredProperty

/-- A literal with escapes has no line end in it. -/
theorem Text.IsLiteralOf.oneLine {text value : String} (h : IsLiteralOf text value) : OneLine text :=
  fun mem => (h.unbroken _ mem).1 rfl

/-- A boolean, an integer or a text. -/
inductive Literal.IsExact : Literal → Prop
  | bool (b : Bool) : IsExact (.bool b)
  | int (n : Int64) : IsExact (.int n)
  | str (s : String) : IsExact (.str s)

/-- The text of a scalar is a single line, whatever text it quotes. -/
theorem Literal.IsExact.oneLine {l : Literal} (h : l.IsExact) : Text.OneLine l.source := by
  cases h with
  | bool b => cases b <;> decide
  | int n =>
    intro mem
    rcases Text.mem_toString mem with h | h
    · cases h
    · exact absurd h (by decide)
  | str s => exact (Text.isLiteralOf_quoted s).oneLine

namespace Config

variable {c : Config} {s : PropertySpec} {a : Accessor}

/-- The accessor is what a spec expands to, by itself or through a declaration that is read as the spec. -/
inductive Expands (c : Config) (s : PropertySpec) (a : Accessor) : Prop
  | spec (built : c.expandSpec s = .ok a)
  | declaration {d : Declaration} (read : PropertySpec.ofDeclaration d = .ok s) (built : c.expand d = .ok a)

theorem Expands.describes (h : c.Expands s a) : s.Describes a := by
  have built : c.expandSpec s = .ok a := by
    cases h with
    | spec built => exact built
    | declaration read built => rwa [expand_of_read read] at built
  have own : s.accessor = .ok a := by
    rw [expandSpec] at built
    cases known : s.accessor with
    | ok b => simpa [known] using built
    | error f => simp [known] at built
  exact (PropertySpec.accessor_eq_ok_iff.1 own).2

/-- A derived key is the name as a literal. -/
theorem Expands.isLiteralOf_key (h : c.Expands s a) (derived : s.key = none) : Text.IsLiteralOf a.get.key s.name := by
  rw [h.describes.derivedKey derived]
  exact Text.isLiteralOf_quoted s.name

theorem Expands.oneLine_store (h : c.Expands s a) (store : ∀ source, s.store = some source → Text.OneLine source)
    {standardStore : String} (standard : Text.OneLine standardStore) :
    Text.OneLine (a.get.store.source standardStore) := by
  cases given : s.store with
  | none =>
    rw [h.describes.standardStore given]
    exact standard
  | some source =>
    rw [h.describes.givenStore source given]
    exact store source given

/-- The number of lines of both bodies, where nothing that is given as a text has a line feed. -/
theorem Expands.length_lines (h : c.Expands s a) (derived : s.key = none) (default : Text.OneLine s.default.source)
    (store : ∀ source, s.store = some source → Text.OneLine source) {standardStore : String}
    (standard : Text.OneLine standardStore) :
    (Text.lines (a.render standardStore).getter).length = 4 ∧
      (Text.lines (a.render standardStore).setter).length = 1 := by
  have stored := h.oneLine_store store standard
  have key := (h.isLiteralOf_key derived).oneLine
  constructor
  · have given : Text.OneLine a.default := by
      rw [Accessor.default, h.describes.default]
      exact default
    rw [Accessor.lines_getter stored key given]
    rfl
  · rw [Accessor.lines_setter (h.describes.sameStore ▸ stored) (h.describes.sameKey ▸ key)]
    rfl

/-- **A quoted text is faithful.** The key that is derived from a name and the canonical text of a string are the same
literal, and it is read as what was quoted. Different names have different keys, and no name or default changes the
number of lines of a rendered body. -/
theorem quoted_faithful :
    (∀ s : String, resolveKey none s = (Literal.str s).source ∧ Text.IsLiteralOf (resolveKey none s) s) ∧
    (∀ s t : String, resolveKey none s = resolveKey none t → s = t) ∧
    (∀ s t : String, (Literal.str s).source = (Literal.str t).source → s = t) ∧
    -- derived keys
    (∀ (c c' : Config) (s t : PropertySpec) (a b : Accessor), s.key = none → t.key = none →
      c.Expands s a → c'.Expands t b →
      Text.IsLiteralOf a.get.key s.name ∧ a.set.key = a.get.key ∧ (a.get.key = b.get.key → s.name = t.name)) ∧
    -- rendered bodies
    ∀ (c : Config) (s : PropertySpec) (a : Accessor) (l : Literal) (standardStore : String), c.Expands s a →
      s.key = none → l.IsExact → s.default = .ofLiteral l →
      (∀ source, s.store = some source → Text.OneLine source) → Text.OneLine standardStore →
      (Text.lines (a.render standardStore).getter).length = 4 ∧
        (Text.lines (a.render standardStore).setter).length = 1 := by
  refine ⟨fun s => ⟨rfl, Text.isLiteralOf_quoted s⟩, fun s t => Text.quoted_injective, fun s t => Text.quoted_injective,
    ?_, ?_⟩
  · intro c c' s t a b derived derived' expands expands'
    have key := expands.isLiteralOf_key derived
    refine ⟨key, expands.describes.sameKey, fun same => ?_⟩
    exact key.unique (same ▸ expands'.isLiteralOf_key derived')
  · intro c s a l standardStore expands derived exact canonical store standard
    have default : Text.OneLine s.default.source := by
      rw [canonical]
      exact exact.oneLine
    exact expands.length_lines derived default store standard

theorem quoted_faithful_lineFeed :
    let default := "\r\n\x000"
    let s : PropertySpec := ⟨"a\n\"b\\", .ofLiteral (.str default), none, none⟩
    ∃ a, expandSpec {} s = .ok a ∧ a.get.key = "\"a\\n\\\"b\\\\\"" ∧ Text.IsLiteralOf a.get.key s.name ∧
      (Text.lines (a.render "self.store").getter).length = 4 ∧
      (Text.lines (a.render "self.store").setter).length = 1 := by
  intro default s
  have complete : s.Complete := ⟨⟨.string, .str default⟩, nofun, nofun, Text.trim_quoted_ne default⟩
  obtain ⟨a, built, -⟩ := PropertySpec.accessor_of_complete complete
  have expanded : expandSpec {} s = .ok a := by rw [expandSpec, built, stamp_ok]
  have expands : Expands {} s a := .spec expanded
  obtain ⟨-, -, -, keys, bodies⟩ := quoted_faithful
  have literal := (keys {} {} s s a a rfl rfl expands expands).1
  have text : a.get.key = "\"a\\n\\\"b\\\\\"" := (expands.describes.derivedKey rfl).trans (by decide +kernel)
  have lengths := bodies {} s a (.str default) "self.store" expands rfl (.str default) rfl nofun (by decide)
  exact ⟨a, expanded, text, literal, lengths⟩

end Config

end StoredProperty
