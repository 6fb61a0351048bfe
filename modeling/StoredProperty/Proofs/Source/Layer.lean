import Mathlib.Logic.Relation
import StoredProperty.Proofs.Source.Integer
import StoredProperty.Source.Expr.Literal

/-!
# Layers around a default

Parentheses, groups and attributes are layers that the literal of an expression does not show: `Expr.literal?_eq_of_same`.
So an integer is accepted in its exact range wherever the layers stand (`Expr.asLiteral_of_integer`), and what a minus
sign does to a number is told by what is behind all layers: a float changes its sign every time, an integer only if it
has none yet (`Expr.literal?_negate`).
-/

namespace StoredProperty.Source

/-! ## Integers in range -/

namespace Scalar

theorem isIntegerSuffix_iff {suffix : List Char} :
    isIntegerSuffix suffix = true ↔ suffix = [] ∨ suffix = "i64".toList := by
  simp [isIntegerSuffix]

/-- The integer that a number behind a sign is. -/
def signed (negative : Bool) (v : Nat) : Int := if negative then -(v : Int) else v

theorem integer?_eq_some_iff {negative : Bool} {v : Nat} {l : Literal} :
    integer? negative v = some l ↔ ∃ n : Int64, l = .int n ∧ n.toInt = signed negative v := by
  unfold integer? signed
  simp only [Option.map_eq_some_iff, Text.toInt64?_eq_some_iff]
  constructor
  · rintro ⟨n, value, rfl⟩
    exact ⟨n, rfl, value⟩
  · rintro ⟨n, rfl, value⟩
    exact ⟨n, value, rfl⟩

/-- A negative integer may be one larger than a positive one. -/
theorem integer?_eq_none_iff {negative : Bool} {v : Nat} :
    integer? negative v = none ↔ (if negative then 2 ^ 63 else 2 ^ 63 - 1) < v := by
  have least : Int64.minValue.toInt = -2 ^ 63 := rfl
  have largest : Int64.maxValue.toInt = 2 ^ 63 - 1 := rfl
  unfold integer?
  rw [Option.map_eq_none_iff, Text.toInt64?_eq_none_iff, least, largest]
  cases negative with
  | false =>
    simp only [Bool.false_eq_true, if_false, Int.ofNat_eq_natCast]
    omega
  | true =>
    simp only [if_true, Int.ofNat_eq_natCast]
    omega

end Scalar

namespace Expr

open Number (IsInteger)

/-! ## Layers -/

/-- The second expression is the first with one more layer, around the whole or around the operand of a minus sign. -/
inductive AddsLayer : Expr → Expr → Prop
  | paren (e : Expr) : AddsLayer e (.paren e)
  | group (e : Expr) : AddsLayer e (.group e)
  | attributed (attributes : List Attribute) (e : Expr) : AddsLayer e (.attributed attributes e)
  | negate {e f : Expr} (behind : AddsLayer e f) : AddsLayer (.unary .negate e) (.unary .negate f)

/-- The second expression is the first with any number of layers added. -/
def Layered (e f : Expr) : Prop := Relation.ReflTransGen AddsLayer e f

/-- The expressions are the same but for layers, which may be added and removed. A layer further in is reached through
the outer ones, which are removed before and added again. -/
def SameButLayers (e f : Expr) : Prop := Relation.EqvGen AddsLayer e f

variable {e f : Expr}

/-- An expression within layers is the same but for them. -/
theorem Layered.sameButLayers (h : e.Layered f) : e.SameButLayers f := by
  induction h with
  | refl => exact .refl _
  | tail _ step ih => exact .trans _ _ _ ih (.rel _ _ step)

/-- One layer, seen by the two readers at once: behind a minus sign either needs what the other finds. -/
theorem AddsLayer.integer?_literal?_eq (h : AddsLayer e f) : e.integer? = f.integer? ∧ e.literal? = f.literal? := by
  induction h with
  | paren e => exact ⟨by rw [integer?], by rw [literal?]⟩
  | group e => exact ⟨by rw [integer?], by rw [literal?]⟩
  | attributed attributes e => exact ⟨by rw [integer?], by rw [literal?]⟩
  | negate _ ih =>
    obtain ⟨integer, own⟩ := ih
    constructor
    · rfl
    · rw [literal?, literal?, integer, own]

/-- Layers do not show in the literal, nor in the integer behind a minus sign. -/
theorem integer?_literal?_eq_of_same (h : e.SameButLayers f) : e.integer? = f.integer? ∧ e.literal? = f.literal? := by
  induction h with
  | rel _ _ step => exact step.integer?_literal?_eq
  | refl => exact ⟨rfl, rfl⟩
  | symm _ _ _ ih => exact ⟨ih.1.symm, ih.2.symm⟩
  | trans _ _ _ _ _ first second => exact ⟨first.1.trans second.1, first.2.trans second.2⟩

theorem literal?_eq_of_same (h : e.SameButLayers f) : e.literal? = f.literal? := (integer?_literal?_eq_of_same h).2

theorem asLiteral_of_none (h : e.literal? = none) : ∃ text, e.asLiteral = .unsupported text := by
  unfold asLiteral
  rw [h]
  exact ⟨_, rfl⟩

/-! ## Integers -/

variable {text : String} {v : Nat} {suffix : List Char}

/-- The expression is an integer with a value and a suffix, in layers. -/
theorem integer?_eq_some_iff :
    e.integer? = some (v, suffix) ↔ ∃ text : String, IsInteger text.toList v suffix ∧ (literal text).Layered e := by
  constructor
  · intro read
    fun_induction integer? e with
    | case1 text => exact ⟨text, Number.integer?_eq_some_iff.1 read, .refl⟩
    | case2 e ih =>
      obtain ⟨text, token, layers⟩ := ih read
      exact ⟨text, token, layers.tail (.paren e)⟩
    | case3 e ih =>
      obtain ⟨text, token, layers⟩ := ih read
      exact ⟨text, token, layers.tail (.group e)⟩
    | case4 attributes e ih =>
      obtain ⟨text, token, layers⟩ := ih read
      exact ⟨text, token, layers.tail (.attributed attributes e)⟩
    | case5 => cases read
  · rintro ⟨text, token, layers⟩
    rw [← (integer?_literal?_eq_of_same layers.sameButLayers).1]
    exact Number.integer?_eq_some_iff.2 token

/-- The literal of an integer without a sign, or behind one. -/
theorem literal?_of_isInteger (token : IsInteger text.toList v suffix) :
    (literal text).literal? = if Scalar.isIntegerSuffix suffix then Scalar.integer? false v else none := by
  simp [literal?, Scalar.ofText?, token.head?_isDigit, Scalar.number?, Number.integer?_eq_some_iff.2 token]

/-- A negated integer is negated as it is written, before it is looked at whether it fits. -/
theorem literal?_negate_of_isInteger (token : IsInteger text.toList v suffix) :
    (unary .negate (literal text)).literal? = if Scalar.isIntegerSuffix suffix then Scalar.integer? true v else none := by
  simp [literal?, integer?, Scalar.digits?, Number.integer?_eq_some_iff.2 token]

/-- An integer is accepted with one of its suffixes and in range, and nothing else becomes of it. -/
theorem asLiteral_of_scalar {negative : Bool}
    (own : e.literal? = if Scalar.isIntegerSuffix suffix then Scalar.integer? negative v else none) :
    if (suffix = [] ∨ suffix = "i64".toList) ∧ v ≤ (if negative then 2 ^ 63 else 2 ^ 63 - 1) then
      ∃ n : Int64, e.asLiteral = .int n ∧ n.toInt = Scalar.signed negative v
    else ∃ text, e.asLiteral = .unsupported text := by
  by_cases plain : Scalar.isIntegerSuffix suffix = true
  · rw [if_pos plain] at own
    have known := Scalar.isIntegerSuffix_iff.1 plain
    cases read : Scalar.integer? negative v with
    | some l =>
      obtain ⟨n, rfl, value⟩ := Scalar.integer?_eq_some_iff.1 read
      have fits : v ≤ if negative then 2 ^ 63 else 2 ^ 63 - 1 := by
        apply Nat.le_of_not_lt
        intro large
        rw [Scalar.integer?_eq_none_iff.2 large] at read
        cases read
      rw [if_pos ⟨known, fits⟩]
      refine ⟨n, ?_, value⟩
      unfold asLiteral
      rw [own, read]
      rfl
    | none =>
      have large := Scalar.integer?_eq_none_iff.1 read
      rw [if_neg fun h => Nat.not_lt.2 h.2 large]
      apply asLiteral_of_none
      rw [own, read]
  · rw [if_neg plain] at own
    rw [if_neg fun h => plain (Scalar.isIntegerSuffix_iff.2 h.1)]
    exact asLiteral_of_none own

/-- **Integers are accepted in exactly their range**, in any layers: from zero to the largest without a minus sign,
and down to the least behind one, where the layers may stand on both sides of it. More generally a layer more or less,
around an expression or around the operand of a minus sign in it, changes nothing but the text of what has no
literal. -/
theorem asLiteral_of_integer :
    (∀ (text : String) (v : Nat) (suffix : List Char), IsInteger text.toList v suffix → ∀ e,
      ((literal text).Layered e →
        if (suffix = [] ∨ suffix = "i64".toList) ∧ v ≤ 2 ^ 63 - 1 then
          ∃ n : Int64, e.asLiteral = .int n ∧ n.toInt = v
        else ∃ t, e.asLiteral = .unsupported t) ∧
      ((unary .negate (literal text)).Layered e →
        if (suffix = [] ∨ suffix = "i64".toList) ∧ v ≤ 2 ^ 63 then
          ∃ n : Int64, e.asLiteral = .int n ∧ n.toInt = -v
        else ∃ t, e.asLiteral = .unsupported t)) ∧
    ∀ e f : Expr, e.SameButLayers f →
      e.asLiteral = f.asLiteral ∨ ∃ s t, e.asLiteral = .unsupported s ∧ f.asLiteral = .unsupported t := by
  refine ⟨fun text v suffix token e => ⟨fun layers => ?_, fun layers => ?_⟩, fun e f same => ?_⟩
  · have own := literal?_eq_of_same layers.sameButLayers
    rw [literal?_of_isInteger token] at own
    exact asLiteral_of_scalar own.symm
  · have own := literal?_eq_of_same layers.sameButLayers
    rw [literal?_negate_of_isInteger token] at own
    exact asLiteral_of_scalar own.symm
  · have own := literal?_eq_of_same same
    cases read : e.literal? with
    | some l =>
      left
      unfold asLiteral
      rw [← own, read]
      rfl
    | none =>
      right
      obtain ⟨s, left⟩ := asLiteral_of_none read
      obtain ⟨t, right⟩ := asLiteral_of_none (own ▸ read)
      exact ⟨s, t, left, right⟩

/-- The least integer in base sixteen, in parentheses: it is accepted behind a minus sign only. -/
theorem asLiteral_of_integer_least :
    let token := literal "0x8000_0000_0000_0000i64"
    let negated := unary .negate (paren (group token))
    IsInteger "0x8000_0000_0000_0000i64".toList (2 ^ 63) "i64".toList ∧ token.Layered (paren token) ∧
      (unary .negate token).Layered negated ∧ negated.SameButLayers (unary .negate token) ∧
      (∃ t, (paren token).asLiteral = .unsupported t) ∧
      (∃ n : Int64, negated.asLiteral = .int n ∧ n.toInt = -(2 ^ 63 : Nat)) ∧
      (negated.asLiteral = (unary .negate token).asLiteral ∨
        ∃ s t, negated.asLiteral = .unsupported s ∧ (unary .negate token).asLiteral = .unsupported t) := by
  intro token negated
  have written : IsInteger "0x8000_0000_0000_0000i64".toList (2 ^ 63) "i64".toList :=
    Number.integer?_eq_some_iff.1 (by decide +kernel)
  have layers : (unary .negate token).Layered negated :=
    (Relation.ReflTransGen.single (.negate (.group _))).tail (.negate (.paren _))
  have more : token.Layered (paren token) := .single (.paren _)
  have same : negated.SameButLayers (unary .negate token) := .symm _ _ layers.sameButLayers
  obtain ⟨accepted, changed⟩ := asLiteral_of_integer
  obtain ⟨plain, -⟩ := accepted _ _ _ written (paren token)
  obtain ⟨-, behind⟩ := accepted _ _ _ written negated
  have large := plain more
  have least := behind layers
  rw [if_neg (by decide)] at large
  rw [if_pos ⟨.inr rfl, Nat.le_refl _⟩] at least
  exact ⟨written, more, layers, same, large, least, changed _ _ same⟩

/-! ## Minus signs -/

/-- Where an integer is found in the layers, its own value is the only literal that there can be. -/
theorem eq_int_of_integer? (token : e.integer? = some (v, suffix)) {l : Literal} (own : e.literal? = some l) :
    Scalar.isIntegerSuffix suffix = true ∧ ∃ n : Int64, l = .int n ∧ n.toInt = v := by
  obtain ⟨text, written, layers⟩ := integer?_eq_some_iff.1 token
  rw [← literal?_eq_of_same layers.sameButLayers, literal?_of_isInteger written] at own
  split at own
  · next plain => exact ⟨plain, Scalar.integer?_eq_some_iff.1 own⟩
  · cases own

/-- A float is no integer behind a minus sign. -/
theorem integer?_of_float {x : Binary64} (own : e.literal? = some (.float x)) : e.integer? = none := by
  cases token : e.integer? with
  | none => rfl
  | some read =>
    obtain ⟨-, n, same, -⟩ := eq_int_of_integer? token own
    cases same

/-- A token whose literal is an integer is read as one. -/
theorem exists_digits_of_int {n : Int64} (own : Scalar.ofText? text = some (.int n)) :
    ∃ v suffix, Scalar.digits? text = some (v, suffix) := by
  unfold Scalar.digits?
  simp only [Scalar.ofText?] at own
  split at own
  · unfold Scalar.number? at own
    split at own
    · next v suffix read => exact ⟨v, suffix, read⟩
    · simp only [Option.bind_eq_some_iff] at own
      obtain ⟨⟨x, suffix⟩, -, float⟩ := own
      split at float <;> cases float
  · split at own <;> cases own

theorem member?_ne_int {p : Path} {n : Int64} : member? p ≠ some (.int n) := by
  unfold member?
  split
  · split <;> nofun
  · nofun

/-- What is no integer by its text and has an integer for its literal is a negation in layers. -/
theorem exists_negate_layered {n : Int64} (own : e.literal? = some (.int n)) (token : e.integer? = none) :
    ∃ operand, (unary .negate operand).Layered e := by
  fun_induction literal? e with
  | case1 text =>
    obtain ⟨v, suffix, read⟩ := exists_digits_of_int own
    rw [integer?, read] at token
    cases token
  | case3 p => exact absurd own member?_ne_int
  | case4 e ih =>
    obtain ⟨operand, layers⟩ := ih own token
    exact ⟨operand, layers.tail (.paren e)⟩
  | case5 e ih =>
    obtain ⟨operand, layers⟩ := ih own token
    exact ⟨operand, layers.tail (.group e)⟩
  | case6 attributes e ih =>
    obtain ⟨operand, layers⟩ := ih own token
    exact ⟨operand, layers.tail (.attributed attributes e)⟩
  | case7 e => exact ⟨e, .refl⟩
  | _ => cases own

/-- **A minus sign in front of a number.** A float changes its sign, whatever signs it has already. An integer without a
sign is negated, and is in range as the number that it was; one that is negated already has no negation, in whatever
layers its sign stands. -/
theorem literal?_negate (e : Expr) :
    (∀ x, e.literal? = some (.float x) → (unary .negate e).literal? = some (.float (-x))) ∧
    ∀ n : Int64, e.literal? = some (.int n) →
      ((∃ text, (literal text).Layered e) ∧ (unary .negate e).literal? = some (.int (-n))) ∨
      ((∃ operand, (unary .negate operand).Layered e) ∧ (unary .negate e).literal? = none) := by
  refine ⟨fun x own => ?_, fun n own => ?_⟩
  · rw [literal?, integer?_of_float own, own]
  · cases token : e.integer? with
    | some read =>
      left
      obtain ⟨v, suffix⟩ := read
      obtain ⟨text, written, layers⟩ := integer?_eq_some_iff.1 token
      obtain ⟨plain, m, same, value⟩ := eq_int_of_integer? token own
      cases same
      refine ⟨⟨text, layers⟩, ?_⟩
      have negated : (-n).toInt = Scalar.signed true v := by
        have small := n.toInt_lt
        rw [Int64.toInt_neg, Int.bmod_eq_of_le (by omega) (by omega), value]
        rfl
      rw [literal?, token]
      simp only [plain, if_true]
      exact Scalar.integer?_eq_some_iff.2 ⟨-n, rfl, negated⟩
    | none =>
      right
      refine ⟨exists_negate_layered own token, ?_⟩
      rw [literal?, token, own]

/-- Behind a second minus sign an integer is nothing but its text. -/
example : (unary .negate (paren (unary .negate (literal "5")))).asLiteral = .unsupported "- (- 5)" := by
  decide +kernel

end Expr

end StoredProperty.Source
