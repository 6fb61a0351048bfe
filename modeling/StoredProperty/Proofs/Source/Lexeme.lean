import StoredProperty.Proofs.Source.Number
import StoredProperty.Proofs.Source.StringLiteral
import StoredProperty.Source.Lexeme

/-!
# Texts of one or two tokens

A text that is a number or a string literal as a whole is cut into this one token (`Tree.read?_of_number`,
`Tree.read?_of_isLiteral`), and a number behind a minus sign into two.
-/

namespace StoredProperty.Source

open Text

namespace Lexeme

/-- A character that a text without blank space, comments and delimiters can begin with. -/
def IsPlain (c : Char) : Prop :=
  isSpace c = false ∧ opening? c = none ∧ closing? c = none ∧ c ∉ ['(', '/', '\ufeff']

instance (c : Char) : Decidable (IsPlain c) := by
  unfold IsPlain
  infer_instance

theorem isPlain_digit {c : Char} (h : c.isDigit = true) : IsPlain c := forall_digit (by decide) h

variable {c d : Char} {cs ds rest : List Char} {t u : Tree}

theorem IsPlain.withoutMark_eq (plain : IsPlain c) (cs : List Char) : withoutMark (c :: cs) = c :: cs := by
  have other : c ≠ '\ufeff' := by
    rintro rfl
    exact absurd plain (by decide)
  simp [withoutMark, other]

/-- A leaf that begins with a plain character is cut as it stands. -/
theorem next?_of_isPlain (plain : IsPlain c) (leaf : leaf? (c :: cs) = some (t, rest)) :
    next? (c :: cs) = some ([.leaf t], rest) := by
  have mark : errorMark? (c :: cs) = none := by
    have other : c ≠ '(' := by
      rintro rfl
      exact absurd plain (by decide)
    simp [errorMark?, errorMark, Ne.symm other]
  have comment : comment? (c :: cs) = none := by
    have other : c ≠ '/' := by
      rintro rfl
      exact absurd plain (by decide)
    simp [comment?, other]
  simp [next?, plain.1, mark, comment, plain.2.1, plain.2.2.1, leaf]

/-- The whole text is one token. -/
theorem read?_of_leaf (plain : IsPlain c) (leaf : leaf? (c :: cs) = some (t, [])) :
    Tree.read? (String.ofList (c :: cs)) = some [t] := by
  rw [Tree.read?, ofChars?, String.toList_ofList, plain.withoutMark_eq, List.length_cons, scan?,
    next?_of_isPlain plain leaf]
  simp [scan?, pair?, attach?]

/-- There is one more token in front. -/
theorem read?_of_leaves (plain : IsPlain c) (leaf : leaf? (c :: d :: ds) = some (t, d :: ds)) (next : IsPlain d)
    (last : leaf? (d :: ds) = some (u, [])) : Tree.read? (String.ofList (c :: d :: ds)) = some [t, u] := by
  rw [Tree.read?, ofChars?, String.toList_ofList, plain.withoutMark_eq, List.length_cons, List.length_cons, scan?,
    next?_of_isPlain plain leaf]
  simp [scan?, next?_of_isPlain next last, pair?, attach?]

/-! ## Literals -/

theorem literal?_of_afterLiteral? (after : afterLiteral? cs = some []) :
    literal? cs = some (.literal (String.ofList cs), []) := by
  simp [literal?, after]

/-- A text that is all literal is one leaf. -/
theorem leaf?_of_afterLiteral? (after : afterLiteral? cs = some []) :
    leaf? cs = some (.literal (String.ofList cs), []) := by
  rw [leaf?, literal?_of_afterLiteral? after]
  rfl

/-- What begins with a digit is a number, and no other literal. -/
theorem afterLiteral?_of_digit (digit : c.isDigit = true) :
    afterLiteral? (c :: cs) = (Number.afterFloat? (c :: cs)).or (Number.afterInteger? (c :: cs)) := by
  have other : c ≠ '"' ∧ c ≠ 'r' ∧ c ≠ 'b' ∧ c ≠ 'c' ∧ c ≠ '\'' :=
    forall_digit (p := fun c => c ≠ '"' ∧ c ≠ 'r' ∧ c ≠ 'b' ∧ c ≠ 'c' ∧ c ≠ '\'') (by decide) digit
  have text : StringLiteral.read? (c :: cs) = none := by simp [StringLiteral.read?, other]
  simp [afterLiteral?, text, other]

/-- A string literal begins with a plain character. -/
theorem isPlain_of_stringLiteral {value : StringKind × List Char × List Char}
    (read : StringLiteral.read? (c :: cs) = some value) : IsPlain c := by
  by_contra other
  have none : c ≠ '"' ∧ c ≠ 'r' ∧ c ≠ 'b' ∧ c ≠ 'c' := by
    refine ⟨?_, ?_, ?_, ?_⟩
    all_goals
      rintro rfl
      exact other (by decide)
  simp [StringLiteral.read?, none] at read

/-- A minus sign in front of a digit is a token for itself. -/
theorem leaf?_minus (digit : d.isDigit = true) (ds : List Char) :
    leaf? ('-' :: d :: ds) = some (.punct '-' false, d :: ds) := by
  have number : literal? ('-' :: d :: ds) = none := rfl
  have apart : startsPunct (d :: ds) = false := by
    have letter : isPunct d = false := forall_digit (p := (isPunct · = false)) (by decide) digit
    simp [startsPunct, letter]
  have own : startsPunct ('-' :: d :: ds) = true := rfl
  have sign : punct? ('-' :: d :: ds) = some (.punct '-' false, d :: ds) := by simp [punct?, own, apart]
  rw [leaf?, number, sign]
  rfl

end Lexeme

namespace Tree

open Lexeme

variable {cs : List Char}

section

variable (begins : cs.head?.any Char.isDigit = true)
  (ends : (Number.afterFloat? cs).or (Number.afterInteger? cs) = some [])

include begins ends

/-- A number is one token. -/
theorem read?_of_number : Tree.read? (String.ofList cs) = some [.literal (String.ofList cs)] := by
  obtain ⟨c, rest, rfl, digit⟩ := exists_cons_of_digit begins
  exact read?_of_leaf (isPlain_digit digit) (leaf?_of_afterLiteral? ((afterLiteral?_of_digit digit).trans ends))

/-- A negative number is two tokens. -/
theorem read?_of_negative :
    Tree.read? (String.ofList ('-' :: cs)) = some [.punct '-' false, .literal (String.ofList cs)] := by
  obtain ⟨c, rest, rfl, digit⟩ := exists_cons_of_digit begins
  exact read?_of_leaves (by decide) (leaf?_minus digit rest) (isPlain_digit digit)
    (leaf?_of_afterLiteral? ((afterLiteral?_of_digit digit).trans ends))

end

/-- A text that is a string literal is one token. -/
theorem read?_of_isLiteral {text value : String} (h : IsLiteralOf text value) :
    Tree.read? text = some [.literal text] := by
  have read := h.read []
  rw [List.append_nil] at read
  have after : afterLiteral? text.toList = some [] := by
    unfold afterLiteral?
    rw [read]
    rfl
  have leaf := leaf?_of_afterLiteral? after
  cases chars : text.toList with
  | nil =>
    rw [chars] at read
    cases read
  | cons c cs =>
    rw [chars] at read leaf
    have whole := read?_of_leaf (isPlain_of_stringLiteral read) leaf
    rwa [← chars, String.ofList_toList] at whole

end Tree

end StoredProperty.Source
