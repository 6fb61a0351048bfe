import Mathlib.Data.List.TakeWhile
import StoredProperty.Binary64.Notation
import StoredProperty.Proofs.Binary64.Shortest

/-!
# Numbers as text read back

Both notations write a numeral: digits with a point or an exponent, or both (`Numeral`). A numeral is read as the
decimal that it shows, and the numeral of a finite magnitude shows one that is rounded to it: `exists_numeral`.
-/

namespace StoredProperty

namespace Binary64

/-- Digits with a point or an exponent, or both. -/
structure Numeral where
  whole : List Char
  part : List Char
  exponent : Option Int
  begun : whole ≠ []
  wholeDigits : ∀ c ∈ whole, c.isDigit = true
  partDigits : ∀ c ∈ part, c.isDigit = true
  isFloat : part ≠ [] ∨ exponent ≠ none

namespace Numeral

variable (t : Numeral)

/-- The point and the digits behind it. -/
def pointed : List Char := if t.part = [] then [] else '.' :: t.part

/-- The exponent behind its letter. -/
def scaled : List Char :=
  match t.exponent with
  | none => []
  | some e => 'e' :: (toString e).toList

def chars : List Char := t.whole ++ (t.pointed ++ t.scaled)

/-- The magnitude nearest to the decimal that is shown. -/
def magnitude : Nat := ofDecimal (Text.digitsValue (t.whole ++ t.part)) (t.exponent.getD 0 - t.part.length)

variable {t}

/-- What comes behind the digits: an exponent, or a point with more digits and perhaps an exponent. -/
theorem behind_cases (t : Numeral) :
    (∃ e, t.part = [] ∧ t.exponent = some e ∧ t.pointed ++ t.scaled = 'e' :: (toString e).toList) ∨
      (t.part ≠ [] ∧ t.pointed ++ t.scaled = '.' :: (t.part ++ t.scaled)) := by
  by_cases none : t.part = []
  · obtain ⟨e, exponent⟩ := Option.ne_none_iff_exists'.1 (t.isFloat.resolve_left (not_not_intro none))
    refine .inl ⟨e, none, exponent, ?_⟩
    simp only [pointed, none, scaled, exponent]
    rfl
  · exact .inr ⟨none, by simp [pointed, none]⟩

section

variable {p : Char → Bool}

/-- A run of characters that are no `e` ends where the exponent begins, or at the end. -/
theorem scaled_stops (letter : p 'e' = false) : t.scaled.head?.any p = false := by
  rw [scaled]
  cases t.exponent with
  | none => rfl
  | some e => exact letter

theorem pointed_stops (letter : p 'e' = false) (point : p '.' = false) :
    (t.pointed ++ t.scaled).head?.any p = false := by
  rw [pointed]
  split
  · exact scaled_stops letter
  · exact point

end

theorem head?_isDigit_chars (t : Numeral) : t.chars.head?.any Char.isDigit = true := by
  obtain ⟨c, more, whole⟩ := List.exists_cons_of_ne_nil t.begun
  simp [chars, whole, t.wholeDigits c (by simp [whole])]

theorem exponent?_scaled : exponent? t.scaled = some (t.exponent.getD 0) := by
  rw [scaled]
  cases t.exponent with
  | none => rfl
  | some e => exact Text.integer?_toString e

/-- A numeral is read as its magnitude. -/
theorem decimal?_chars : decimal? t.chars = some t.magnitude := by
  have whole : takeDigits t.chars = (t.whole, t.pointed ++ t.scaled) :=
    Text.span_append_of_stop t.wholeDigits (pointed_stops rfl rfl)
  have begun : t.whole.isEmpty = false := List.isEmpty_eq_false_iff.2 t.begun
  obtain ⟨e, none, exponent, behind⟩ | ⟨-, behind⟩ := t.behind_cases
  · have read : exponent? ('e' :: (toString e).toList) = some e := Text.integer?_toString e
    simp only [decimal?, whole, behind, begun, magnitude, none, exponent]
    exact congrArg (Option.map _) read
  · have part : takeDigits (t.part ++ t.scaled) = (t.part, t.scaled) :=
      Text.span_append_of_stop t.partDigits (scaled_stops rfl)
    simp only [decimal?, whole, behind, part, begun, exponent?_scaled]
    rfl

end Numeral

/-! ## The two notations -/

/-- The digits of a number that is not zero, without zeros at the end, and where the point is. -/
theorem normal_spec {x : Decimal} (some : x.digits ≠ 0) :
    ∃ zeros, Nat.toDigits 10 x.digits = x.normal.1 ++ List.replicate zeros '0' ∧ x.normal.1 ≠ [] ∧
      x.normal.2 = x.normal.1.length + zeros + x.exponent := by
  let digits := Nat.toDigits 10 x.digits
  let zeros := digits.reverse.takeWhile (· == '0')
  have last : zeros = List.replicate zeros.length '0' :=
    List.eq_replicate_of_mem fun c mem => by simpa using List.mem_takeWhile_imp mem
  have parts : digits = x.normal.1 ++ List.replicate zeros.length '0' := by
    rw [← List.reverse_replicate, ← last, Decimal.normal, ← List.reverse_append, List.takeWhile_append_dropWhile,
      List.reverse_reverse]
  have kept : x.normal.1 ≠ [] := by
    intro none
    have value : Text.digitsValue digits = x.digits := Text.digitsValue_toDigits _
    rw [parts, none, Text.digitsValue_append_zeros] at value
    exact some (value.symm.trans (Nat.zero_mul _))
  refine ⟨zeros.length, parts, kept, ?_⟩
  have size : digits.length = x.normal.1.length + zeros.length := by
    rw [parts, List.length_append, List.length_replicate]
  show (digits.length : Int) + x.exponent = _
  omega

section Numerals

variable {ds : List Char} (begun : ds ≠ []) (digits : ∀ c ∈ ds, c.isDigit = true) (k : Int)

include begun digits

/-- Positional notation is a numeral of the value. -/
theorem exists_positional :
    ∃ t : Numeral, positional ds k = t.chars ∧
      t.magnitude = ofDecimal (Text.digitsValue ds) (k - ds.length) := by
  have zeros (j : Nat) : ∀ c ∈ List.replicate j '0', c.isDigit = true := fun c mem => by
    rw [List.eq_of_mem_replicate mem]
    rfl
  by_cases small : k ≤ 0
  · -- a zero in front of the point, and more behind it
    let t : Numeral :=
      { whole := ['0'], part := List.replicate (-k).toNat '0' ++ ds, exponent := none, begun := by simp
        wholeDigits := zeros 1
        partDigits := fun c mem => (List.mem_append.1 mem).elim (zeros _ c) (digits c)
        isFloat := .inl (by simp [begun]) }
    have value : Text.digitsValue (t.whole ++ t.part) = Text.digitsValue ds := by
      rw [show t.whole ++ t.part = List.replicate ((-k).toNat + 1) '0' ++ ds from rfl, Text.digitsValue_zeros_append]
    refine ⟨t, ?_, ?_⟩
    · simp [positional, small, Numeral.chars, Numeral.pointed, Numeral.scaled, t, begun]
    · rw [Numeral.magnitude, value]
      congr 1
      simp only [t, List.length_append, List.length_replicate, Option.getD_none]
      omega
  by_cases inside : k.toNat < ds.length
  · let t : Numeral :=
      { whole := ds.take k.toNat, part := ds.drop k.toNat, exponent := none
        begun := by
          intro none
          have size := congrArg List.length none
          simp only [List.length_take, List.length_nil] at size
          omega
        wholeDigits := fun c mem => digits c (List.mem_of_mem_take mem)
        partDigits := fun c mem => digits c (List.mem_of_mem_drop mem)
        isFloat := .inl (by simpa using inside) }
    refine ⟨t, ?_, ?_⟩
    · have some : ds.drop k.toNat ≠ [] := by simpa using inside
      simp only [positional, small, inside, Numeral.chars, Numeral.pointed, Numeral.scaled, t, some, if_true, if_false,
        List.append_nil]
    · rw [Numeral.magnitude, show t.whole ++ t.part = ds from List.take_append_drop ..]
      congr 1
      simp only [t, List.length_drop, Option.getD_none]
      omega
  · -- zeros in front of the point, and one behind it
    let t : Numeral :=
      { whole := ds ++ List.replicate (k.toNat - ds.length) '0', part := ['0'], exponent := none
        begun := by simp [begun]
        wholeDigits := fun c mem => (List.mem_append.1 mem).elim (digits c) (zeros _ c)
        partDigits := zeros 1
        isFloat := .inl (by simp) }
    have all : t.whole ++ t.part = ds ++ List.replicate (k.toNat - ds.length + 1) '0' := by
      rw [List.replicate_succ', ← List.append_assoc]
    refine ⟨t, ?_, ?_⟩
    · simp [positional, small, inside, Numeral.chars, Numeral.pointed, Numeral.scaled, t]
    · rw [Numeral.magnitude, all, Text.digitsValue_append_zeros, ofDecimal_mul_pow]
      congr 1
      simp only [t, List.length_singleton, Option.getD_none]
      omega

/-- Scientific notation is a numeral of the value. -/
theorem exists_scientific :
    ∃ t : Numeral, scientific ds k = t.chars ∧
      t.magnitude = ofDecimal (Text.digitsValue ds) (k - ds.length) := by
  obtain ⟨first, more, rfl⟩ := List.exists_cons_of_ne_nil begun
  let t : Numeral :=
    { whole := [first], part := more, exponent := some (k - 1), begun := by simp
      wholeDigits := by simpa using digits first List.mem_cons_self
      partDigits := fun c mem => digits c (List.mem_cons_of_mem first mem)
      isFloat := .inr (by simp) }
  refine ⟨t, ?_, ?_⟩
  · cases more <;> simp [scientific, Numeral.chars, Numeral.pointed, Numeral.scaled, t]
  · rw [Numeral.magnitude]
    congr 1
    simp only [t, List.length_cons, Option.getD_some]
    omega

end Numerals

/-- **A finite magnitude is written as a numeral of it.** -/
theorem exists_numeral {m : Nat} (finite : m < infinityMagnitude) :
    ∃ t : Numeral, magnitudeText m = t.chars ∧ t.magnitude = m := by
  by_cases zero : m = 0
  · let t : Numeral :=
      { whole := ['0'], part := ['0'], exponent := none, begun := by simp
        wholeDigits := List.all_eq_true.1 (by decide), partDigits := List.all_eq_true.1 (by decide), isFloat := .inl (by simp) }
    refine ⟨t, ?_, ?_⟩
    · rw [zero]
      rfl
    · rw [zero]
      rfl
  · have reads := ofDecimal_shortest zero finite
    have some : (shortest m).digits ≠ 0 := by
      intro none
      rw [none] at reads
      exact zero reads.symm
    obtain ⟨zeros, parts, begun, place⟩ := normal_spec some
    have text : magnitudeText m =
        if isPositional (shortest m).normal.2 then positional (shortest m).normal.1 (shortest m).normal.2
        else scientific (shortest m).normal.1 (shortest m).normal.2 := by
      rw [magnitudeText, if_neg zero]
    rw [text]
    generalize (shortest m).normal.1 = ds at parts begun place
    generalize (shortest m).normal.2 = k at place
    have digits : ∀ c ∈ ds, c.isDigit = true := fun c mem =>
      Text.isDigit_of_mem_toDigits (parts ▸ List.mem_append_left _ mem)
    have value : Text.digitsValue ds * 10 ^ zeros = (shortest m).digits := by
      rw [← Text.digitsValue_append_zeros, ← parts, Text.digitsValue_toDigits]
    have same : ofDecimal (Text.digitsValue ds) (k - ds.length) = m := by
      rw [← value, ofDecimal_mul_pow] at reads
      rw [← reads]
      congr 1
      omega
    split
    · exact same ▸ exists_positional begun digits k
    · exact same ▸ exists_scientific begun digits k

/-! ## The sign -/

/-- A float without a sign is its magnitude. -/
theorem ofMagnitude_magnitude {x : Binary64} (positive : x.isNegative = false) : ofMagnitude x.magnitude = x := by
  have small : x.bits.toNat < signBit := by simpa [isNegative] using positive
  rw [ofMagnitude, magnitude, Nat.mod_eq_of_lt small, UInt64.ofNat_toNat]

theorem xor_signBit {n : Nat} (negative : signBit ≤ n) (word : n < 2 ^ 64) : n % signBit ^^^ signBit = n := by
  have bit : signBit = 2 ^ 63 := rfl
  obtain ⟨r, rfl⟩ := Nat.exists_eq_add_of_le negative
  have small : r < 2 ^ 63 := by omega
  rw [Nat.add_mod_left, bit, Nat.mod_eq_of_lt small]
  refine Nat.eq_of_testBit_eq fun i => ?_
  rw [Nat.testBit_xor, Nat.testBit_two_pow]
  rcases Nat.lt_trichotomy i 63 with below | rfl | above
  · rw [Nat.testBit_two_pow_add_gt below]
    simp [show ¬ 63 = i by omega]
  · rw [Nat.testBit_two_pow_add_eq]
    simp
  · have power : 2 ^ 64 ≤ 2 ^ i := Nat.pow_le_pow_right (by decide) above
    rw [Nat.testBit_lt_two_pow (by omega), Nat.testBit_lt_two_pow (by omega)]
    simp [show ¬ 63 = i by omega]

/-- A float with a sign is the negative of its magnitude. -/
theorem neg_ofMagnitude_magnitude {x : Binary64} (negative : x.isNegative = true) : -ofMagnitude x.magnitude = x := by
  have above : signBit ≤ x.bits.toNat := by simpa [isNegative] using negative
  have word : x.magnitude < 2 ^ 64 := Nat.lt_trans (Nat.mod_lt _ (by decide)) (by decide)
  have bits : (UInt64.ofNat x.magnitude ^^^ 0x8000000000000000).toNat = x.bits.toNat := by
    rw [UInt64.toNat_xor, UInt64.toNat_ofNat_of_lt' word]
    exact xor_signBit above x.bits.toNat_lt
  exact congrArg Binary64.mk (UInt64.toNat_inj.1 bits)

/-- Where a digit comes first, there is no word. -/
theorem magnitude?_of_digit {cs : List Char} (begins : cs.head?.any Char.isDigit = true) :
    magnitude? cs = decimal? cs := by
  obtain ⟨c, rest, rfl, digit⟩ := Text.exists_cons_of_digit begins
  have letters : c.toLower ≠ 'i' ∧ c.toLower ≠ 'n' :=
    Text.forall_digit (p := fun c => c.toLower ≠ 'i' ∧ c.toLower ≠ 'n') (by decide) digit
  simp [magnitude?, letters]

/-- Where a digit comes first, there is no sign and no word. -/
theorem read?_of_digit {cs : List Char} (begins : cs.head?.any Char.isDigit = true) :
    read? cs = (decimal? cs).map (signed false) := by
  rw [← magnitude?_of_digit begins]
  obtain ⟨c, rest, rfl, digit⟩ := Text.exists_cons_of_digit begins
  have plus : c ≠ '+' := Text.forall_digit (p := (· ≠ '+')) (by decide) digit
  have minus : c ≠ '-' := Text.forall_digit (p := (· ≠ '-')) (by decide) digit
  rw [read?]
  · rintro cs ⟨⟩
    exact plus rfl
  · rintro cs ⟨⟩
    exact minus rfl

theorem Numeral.read?_chars (t : Numeral) : read? t.chars = some (ofMagnitude t.magnitude) := by
  rw [read?_of_digit t.head?_isDigit_chars, decimal?_chars]
  rfl

end Binary64

end StoredProperty
