import StoredProperty.Proofs.Accessor.Typing
import StoredProperty.Proofs.Source.Lexeme
import StoredProperty.Source.Expr.Literal
import StoredProperty.Source.Expr.Reader

/-!
# Scalars read back

The canonical text of a scalar is an expression, and its literal is the scalar again. A number with a sign is written as
one text and read as two tokens, and what is not finite has a name and is read as a member of its type:
`Literal.ReadsBackAs`.
-/

namespace StoredProperty

open Source

/-- What is a value by itself. -/
inductive Literal.IsScalar : Literal → Prop
  | bool (b : Bool) : IsScalar (.bool b)
  | int (n : Int64) : IsScalar (.int n)
  | float (x : Binary64) : IsScalar (.float x)
  | str (s : String) : IsScalar (.str s)

/-- A scalar is read back as itself, unless it is a float that is not finite. -/
inductive Literal.ReadsBackAs : Literal → Literal → Prop
  | bool (b : Bool) : ReadsBackAs (.bool b) (.bool b)
  | int (n : Int64) : ReadsBackAs (.int n) (.int n)
  | str (s : String) : ReadsBackAs (.str s) (.str s)
  | finite {x : Binary64} (number : x.isNaN = false) (finite : x.isInfinite = false) : ReadsBackAs (.float x) (.float x)
  | nan {x : Binary64} (nan : x.isNaN = true) : ReadsBackAs (.float x) (.memberRef "f64" "NAN")
  | infinity {x : Binary64} (infinite : x.isInfinite = true) (positive : x.isNegative = false) :
      ReadsBackAs (.float x) (.memberRef "f64" "INFINITY")
  | negativeInfinity {x : Binary64} (infinite : x.isInfinite = true) (negative : x.isNegative = true) :
      ReadsBackAs (.float x) (.memberRef "f64" "NEG_INFINITY")

/-- What is read back has the type of the scalar. -/
theorem Literal.ReadsBackAs.hasType {l r : Literal} (h : l.ReadsBackAs r) : ∃ t, l.HasType t ∧ r.HasType t := by
  cases h with
  | bool b => exact ⟨_, .bool b, .bool b⟩
  | int n => exact ⟨_, .int n, .int n⟩
  | str s => exact ⟨_, .str s, .str s⟩
  | @finite x => exact ⟨_, .float x, .float x⟩
  | @nan x | @infinity x | @negativeInfinity x => exact ⟨_, .float x, .member _ (by decide)⟩

/-! ## Tokens as expressions -/

/-- Nothing is left in a group without tokens. -/
theorem Source.unread_nil (d : Delimiter) : unread d [] = none := by rw [unread]

/-- A reader that leaves nothing has read all. -/
theorem Source.Reader.all_of_reads {α : Type} {r : Reader α} {ts : List Tree} {a : α}
    (h : r ⟨ts, none⟩ = .ok (a, ⟨[], none⟩)) : Reader.all r ts = .ok a := by
  simp [Reader.all, h, unread]

namespace Source.Expr

theorem ofTrees_literal (text : String) : ofTrees [.literal text] = .ok (.literal text) := Reader.all_of_reads rfl

theorem ofTrees_negated (text : String) :
    ofTrees [.punct '-' false, .literal text] = .ok (.unary .negate (.literal text)) := Reader.all_of_reads rfl

/-- The expression of a text has the literal. -/
def ReadsAs (text : String) (l : Literal) : Prop := ∃ e, ofText text = .ok e ∧ e.asLiteral = l

section

variable {text : String} {cs : List Char} {l : Literal}

theorem ofText_of_trees {ts : List Tree} {e : Expr} (tokens : Tree.read? text = some ts) (read : ofTrees ts = .ok e) :
    ofText text = .ok e := by
  rw [ofText, tokens]
  exact read

/-- A text that is one token is that token in the code. -/
theorem ofText_of_literal {token : String} (cut : Tree.read? text = some [.literal token]) :
    ofText text = .ok (.literal token) := ofText_of_trees cut (ofTrees_literal token)

/-- A text has the literal of the expression that its tokens are. -/
theorem readsAs_of_trees {ts : List Tree} {e : Expr} (tokens : Tree.read? text = some ts) (read : ofTrees ts = .ok e)
    (own : e.literal? = some l) : ReadsAs text l := by
  refine ⟨e, ofText_of_trees tokens read, ?_⟩
  rw [asLiteral, own]
  rfl

/-! ### Numbers -/

/-- What begins with a digit is read as a number. -/
theorem ofText?_of_digit (begins : cs.head?.any Char.isDigit = true) :
    Scalar.ofText? (String.ofList cs) = Scalar.number? cs := by
  simp [Scalar.ofText?, begins]

section

variable (begins : cs.head?.any Char.isDigit = true)
  (ends : (Number.afterFloat? cs).or (Number.afterInteger? cs) = some [])

include begins ends

theorem readsAs_of_number (own : Scalar.number? cs = some l) : ReadsAs (String.ofList cs) l := by
  refine readsAs_of_trees (Tree.read?_of_number begins ends) (ofTrees_literal _) ?_
  rw [literal?, ofText?_of_digit begins, own]

theorem readsAs_of_negated (own : (unary .negate (literal (String.ofList cs))).literal? = some l) :
    ReadsAs (String.ofList ('-' :: cs)) l :=
  readsAs_of_trees (Tree.read?_of_negative begins ends) (ofTrees_negated _) own

end

theorem head?_isDigit_toDigits (n : Nat) : (Nat.toDigits 10 n).head?.any Char.isDigit = true := by
  obtain ⟨c, rest, digits⟩ := List.exists_cons_of_ne_nil (Nat.toDigits_ne_nil (n := n) (b := 10))
  have first : c.isDigit = true := Text.isDigit_of_mem_toDigits (n := n) (digits ▸ List.mem_cons_self)
  simp [digits, first]

theorem after_toDigits (n : Nat) :
    (Number.afterFloat? (Nat.toDigits 10 n)).or (Number.afterInteger? (Nat.toDigits 10 n)) = some [] := by
  rw [Number.afterFloat?_toDigits, Number.afterInteger?_toDigits, Option.none_or]

/-- The least integer has no positive counterpart, but its digits are read before the sign is looked at. -/
theorem integer?_natAbs (n : Int64) : Scalar.integer? (n.toInt < 0) n.toInt.natAbs = some (.int n) := by
  have value : (if n.toInt < 0 then -Int.ofNat n.toInt.natAbs else Int.ofNat n.toInt.natAbs) = n.toInt := by
    simp only [Int.ofNat_eq_natCast]
    split <;> omega
  simp only [Scalar.integer?, decide_eq_true_eq, value]
  rw [Text.toInt64?, if_pos ⟨n.minValue_le_toInt, n.toInt_le⟩, Int64.ofInt_toInt]
  rfl

/-- Integers are read back, the least one too. -/
theorem readsAs_int (n : Int64) : ReadsAs (Literal.int n).source (.int n) := by
  have begins := head?_isDigit_toDigits n.toInt.natAbs
  have ends := after_toDigits n.toInt.natAbs
  have own := integer?_natAbs n
  have text := Text.toList_toString n.toInt
  rw [Literal.source, ← String.ofList_toList (s := toString n.toInt), text]
  split
  · next negative =>
    rw [decide_eq_true negative] at own
    refine readsAs_of_negated begins ends ?_
    simp [literal?, integer?, Scalar.digits?, Number.integer?_toDigits, Scalar.isIntegerSuffix, own]
  · next natural =>
    rw [decide_eq_false natural] at own
    refine readsAs_of_number begins ends ?_
    simp [Scalar.number?, Number.integer?_toDigits, Scalar.isIntegerSuffix, own]

/-! ### Floats -/

open Binary64 (Numeral)

/-- A numeral is the literal of its magnitude. -/
theorem number?_chars (t : Numeral) : Scalar.number? t.chars = some (.float (.ofMagnitude t.magnitude)) := by
  simp [Scalar.number?, Number.integer?_chars, Number.float?_chars, Scalar.isFloatSuffix]

theorem after_chars (t : Numeral) : (Number.afterFloat? t.chars).or (Number.afterInteger? t.chars) = some [] := by
  rw [Number.afterFloat?_chars, Option.some_or]

/-- A sign in front of a numeral changes the sign of its value. -/
theorem literal?_negated_chars (t : Numeral) :
    (unary .negate (literal (String.ofList t.chars))).literal? = some (.float (-.ofMagnitude t.magnitude)) := by
  have begins := t.head?_isDigit_chars
  simp [literal?, integer?, Scalar.digits?, Number.integer?_chars, ofText?_of_digit begins, number?_chars]

/-- Finite floats are read back, with the sign of zero. -/
theorem readsAs_float {x : Binary64} (number : x.isNaN = false) (finite : x.isInfinite = false) :
    ReadsAs (Literal.float x).source (.float x) := by
  have below : x.magnitude < Binary64.infinityMagnitude := by
    simp only [Binary64.isNaN, Binary64.isInfinite, decide_eq_false_iff_not, beq_eq_false_iff_ne] at number finite
    omega
  obtain ⟨t, text, value⟩ := Binary64.exists_numeral below
  have begins := t.head?_isDigit_chars
  have source : (Literal.float x).source = x.text := by simp [Literal.source, Literal.floatSource, number, finite]
  rw [source, Binary64.text, text]
  cases sign : x.isNegative with
  | true =>
    refine readsAs_of_negated begins (after_chars t) ?_
    rw [literal?_negated_chars, value, Binary64.neg_ofMagnitude_magnitude sign]
  | false =>
    show ReadsAs (String.ofList t.chars) _
    refine readsAs_of_number begins (after_chars t) ?_
    rw [number?_chars, value, Binary64.ofMagnitude_magnitude sign]

/-! ### Words and texts -/

theorem readsAs_str (s : String) : ReadsAs (Literal.str s).source (.str s) := by
  have quoted : Text.IsLiteralOf (Literal.str s).source s := Text.isLiteralOf_quoted s
  have read : StringLiteral.read? (Literal.str s).source.toList = some (.text, s.toList, []) := by
    simpa using quoted.read []
  have begins : (Literal.str s).source.toList.head?.any Char.isDigit = false := by
    simp [Literal.source, Text.quoted, Text.quotedChars]
  refine readsAs_of_trees (Tree.read?_of_isLiteral quoted) (ofTrees_literal _) ?_
  simp [literal?, Scalar.ofText?, begins, read]

set_option maxRecDepth 10000 in
theorem readsAs_bool (b : Bool) : ReadsAs (Literal.bool b).source (.bool b) := by
  cases b with
  | false =>
    have tokens : Tree.read? "false" = some [.word "false"] := rfl
    exact readsAs_of_trees tokens (Reader.all_of_reads rfl) rfl
  | true =>
    have tokens : Tree.read? "true" = some [.word "true"] := rfl
    exact readsAs_of_trees tokens (Reader.all_of_reads rfl) rfl

/-- A member of the type of floats. -/
def floatMember (name : String) : Expr := .path ⟨false, [⟨.plain "f64", []⟩, ⟨.plain name, []⟩]⟩

/-- What is not finite is read as a member of its type. -/
theorem readsAs_of_member {name : String}
    (tokens : Tree.read? text = some (.word "f64" :: Tree.op "::" ++ [.word name]))
    (read : Expr.read ⟨.word "f64" :: Tree.op "::" ++ [.word name], none⟩ = .ok (floatMember name, ⟨[], none⟩)) :
    ReadsAs text (.memberRef "f64" name) :=
  readsAs_of_trees tokens (Reader.all_of_reads read) rfl

set_option maxRecDepth 10000 in
theorem readsAs_nan : ReadsAs "f64::NAN" (.memberRef "f64" "NAN") := readsAs_of_member rfl rfl

set_option maxRecDepth 10000 in
theorem readsAs_infinity : ReadsAs "f64::INFINITY" (.memberRef "f64" "INFINITY") := readsAs_of_member rfl rfl

set_option maxRecDepth 10000 in
theorem readsAs_negativeInfinity : ReadsAs "f64::NEG_INFINITY" (.memberRef "f64" "NEG_INFINITY") :=
  readsAs_of_member rfl rfl

end

/-- Every scalar is read back as itself, or as the member that it is named by. -/
theorem exists_readsBackAs {l : Literal} (scalar : l.IsScalar) : ∃ r, ReadsAs l.source r ∧ l.ReadsBackAs r := by
  cases scalar with
  | bool b => exact ⟨_, readsAs_bool b, .bool b⟩
  | int n => exact ⟨_, readsAs_int n, .int n⟩
  | str s => exact ⟨_, readsAs_str s, .str s⟩
  | float x =>
    cases number : x.isNaN with
    | true =>
      have source : (Literal.float x).source = "f64::NAN" := by simp [Literal.source, Literal.floatSource, number]
      exact ⟨_, source ▸ readsAs_nan, .nan number⟩
    | false =>
      cases finite : x.isInfinite with
      | false => exact ⟨_, readsAs_float number finite, .finite number finite⟩
      | true =>
        cases sign : x.isNegative with
        | true =>
          have source : (Literal.float x).source = "f64::NEG_INFINITY" := by
            simp [Literal.source, Literal.floatSource, number, finite, sign]
          exact ⟨_, source ▸ readsAs_negativeInfinity, .negativeInfinity finite sign⟩
        | false =>
          have source : (Literal.float x).source = "f64::INFINITY" := by
            simp [Literal.source, Literal.floatSource, number, finite, sign]
          exact ⟨_, source ▸ readsAs_infinity, .infinity finite sign⟩

/-- **A scalar is read back.** Its canonical text is an expression, and the literal of this is the scalar itself, or a
member of the type of floats that names it. Either way the type is the same. -/
theorem ofText_source {l : Literal} (scalar : l.IsScalar) :
    ∃ e t, ofText l.source = .ok e ∧ l.ReadsBackAs e.asLiteral ∧
      ∀ source, (⟨l, source⟩ : DefaultValue).classify = .ok t ∧
        (⟨e.asLiteral, source⟩ : DefaultValue).classify = .ok t := by
  obtain ⟨r, ⟨e, read, rfl⟩, same⟩ := exists_readsBackAs scalar
  obtain ⟨t, own, other⟩ := same.hasType
  exact ⟨e, t, read, same, fun source => ⟨DefaultValue.classify_of_hasType own, DefaultValue.classify_of_hasType other⟩⟩

/-- The least integer, whose digits alone are out of range. -/
theorem ofText_source_least :
    (Literal.int Int64.minValue).IsScalar ∧ (Literal.int Int64.minValue).source = "-9223372036854775808" ∧
      ∃ e, ofText "-9223372036854775808" = .ok e ∧ e.asLiteral = .int Int64.minValue := by
  have scalar : (Literal.int Int64.minValue).IsScalar := .int Int64.minValue
  have text : (Literal.int Int64.minValue).source = "-9223372036854775808" := by decide
  obtain ⟨e, t, read, same, -⟩ := ofText_source scalar
  refine ⟨scalar, text, e, text ▸ read, ?_⟩
  generalize e.asLiteral = r at same
  cases same
  rfl

end Source.Expr

end StoredProperty
