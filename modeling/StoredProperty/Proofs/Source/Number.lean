import StoredProperty.Proofs.Binary64.Notation
import StoredProperty.Source.Number

/-!
# Numbers that are written are numbers in source text

The digits of a natural number and a numeral are cut from source text as a whole, the one as an integer and the other
as a float, and they are read as what was written: `Number.integer?_toDigits` and `Number.float?_chars`. A numeral is no
integer, since its digits end in a point or an exponent.
-/

namespace StoredProperty.Source.Number

open Text

/-- Every digit is read as its value. -/
theorem digit?_digitChar : ∀ d < 10, digit? d.digitChar = some d := by decide

/-- What a digit is not. -/
theorem digit_ne {c : Char} (h : c.isDigit = true) :
    c ≠ '_' ∧ c ≠ '.' ∧ c ≠ '+' ∧ c ≠ '-' ∧ isExponentLetter c = false :=
  forall_digit (p := fun c => c ≠ '_' ∧ c ≠ '.' ∧ c ≠ '+' ∧ c ≠ '-' ∧ isExponentLetter c = false) (by decide) h

theorem startsIdentifier_digit {c : Char} (h : c.isDigit = true) : startsIdentifier c = false :=
  forall_digit (p := (startsIdentifier · = false)) (by decide +kernel) h

theorem isDigitOrUnderscore_of_isDigit {c : Char} (h : c.isDigit = true) : isDigitOrUnderscore c = true := by
  simp [isDigitOrUnderscore, h]

variable {ds rest : List Char}

/-! ## Exponents -/

theorem isExponent_digits (digits : ∀ c ∈ ds, c.isDigit = true) (any : Bool) (more : any = true ∨ ds ≠ []) :
    isExponent any ds = true := by
  induction ds generalizing any with
  | nil => simpa [isExponent] using more
  | cons c ds ih =>
    have digit := digits c List.mem_cons_self
    obtain ⟨underscore, -, plus, minus, -⟩ := digit_ne digit
    simp [isExponent, underscore, plus, minus, digit, ih (fun c mem => digits c (List.mem_cons_of_mem _ mem))]

theorem isExponent_toString (i : Int) : isExponent false (toString i).toList = true := by
  rw [toList_toString]
  split
  · rfl
  · exact isExponent_digits (fun _ => isDigit_of_mem_toDigits) false (.inr Nat.toDigits_ne_nil)

theorem afterExponent?_digits (digits : ∀ c ∈ ds, c.isDigit = true) (sign value : Bool)
    (more : value = true ∨ ds ≠ []) : afterExponent? sign value ds = some [] := by
  induction ds generalizing value with
  | nil => simpa [afterExponent?] using more
  | cons c ds ih =>
    have digit := digits c List.mem_cons_self
    obtain ⟨-, -, plus, minus, -⟩ := digit_ne digit
    simp [afterExponent?, plus, minus, digit, ih (fun c mem => digits c (List.mem_cons_of_mem _ mem))]

theorem afterExponent?_toString (i : Int) : afterExponent? false false (toString i).toList = some [] := by
  have digits : ∀ c ∈ Nat.toDigits 10 i.natAbs, c.isDigit = true := fun _ => isDigit_of_mem_toDigits
  rw [toList_toString]
  split
  · exact afterExponent?_digits digits true false (.inr Nat.toDigits_ne_nil)
  · exact afterExponent?_digits digits false false (.inr Nat.toDigits_ne_nil)

/-! ## Integers -/

theorem afterIntegerDigits?_digits (digits : ∀ c ∈ ds, c.isDigit = true) (any : Bool) (more : any = true ∨ ds ≠ []) :
    afterIntegerDigits? 10 any ds = some [] := by
  induction ds generalizing any with
  | nil => simpa [afterIntegerDigits?] using more
  | cons c ds ih =>
    have digit := digits c List.mem_cons_self
    obtain ⟨d, small, rfl⟩ := exists_digitChar digit
    have underscore := (digit_ne digit).1
    simp [afterIntegerDigits?, underscore, digit?_digitChar d small, small,
      ih (fun c mem => digits c (List.mem_cons_of_mem _ mem))]

/-- Digits are added up from the left. -/
theorem integerDigits?_append (digits : ∀ c ∈ ds, c.isDigit = true) (value : Nat) (any : Bool)
    (more : any = true ∨ ds ≠ []) :
    integerDigits? 10 value any (ds ++ rest) = integerDigits? 10 (Nat.ofDigitChars 10 ds value) true rest := by
  induction ds generalizing value any with
  | nil =>
    rw [more.resolve_right (not_not_intro rfl)]
    rfl
  | cons c ds ih =>
    have digit := digits c List.mem_cons_self
    obtain ⟨d, small, rfl⟩ := exists_digitChar digit
    have underscore := (digit_ne digit).1
    have next := ih (fun c mem => digits c (List.mem_cons_of_mem _ mem)) (10 * value + d) true (.inl rfl)
    rw [Nat.ofDigitChars_cons_digitChar_of_lt_ten small, ← next]
    simp [integerDigits?, underscore, digit?_digitChar d small, small]

/-- Nothing looks like the mark of another base. -/
theorem base_eq_ten {cs : List Char} (none : ∀ c ∈ cs, c ≠ 'x' ∧ c ≠ 'o' ∧ c ≠ 'b') : base cs = (10, cs) := by
  fun_cases base cs
  · exact absurd rfl (none 'x' (by simp)).1
  · exact absurd rfl (none 'o' (by simp)).2.1
  · exact absurd rfl (none 'b' (by simp)).2.2
  · rfl

theorem digit_noBase {c : Char} (h : c.isDigit = true) : c ≠ 'x' ∧ c ≠ 'o' ∧ c ≠ 'b' :=
  forall_digit (p := fun c => c ≠ 'x' ∧ c ≠ 'o' ∧ c ≠ 'b') (by decide) h

/-- Digits without a mark of a base are decimal. -/
theorem integer?_append (begun : ds ≠ []) (digits : ∀ c ∈ ds, c.isDigit = true)
    (decimal : ∀ c ∈ rest, c ≠ 'x' ∧ c ≠ 'o' ∧ c ≠ 'b') :
    integer? (ds ++ rest) = integerDigits? 10 (digitsValue ds) true rest := by
  have ten : base (ds ++ rest) = (10, ds ++ rest) :=
    base_eq_ten fun c mem => (List.mem_append.1 mem).elim (fun mem => digit_noBase (digits c mem)) (decimal c)
  have first : ((ds ++ rest).head?.any fun c => c.isDigit || (10 : Nat) ≠ 10) = true := by
    obtain ⟨c, more, rfl⟩ := List.exists_cons_of_ne_nil begun
    simp [digits c List.mem_cons_self]
  rw [integer?, ten]
  simp only [first, if_true]
  exact integerDigits?_append digits 0 false (.inr begun)

/-- The digits of a number are read back as it. -/
theorem integer?_toDigits (n : Nat) : integer? (Nat.toDigits 10 n) = some (n, []) := by
  have read : integer? (Nat.toDigits 10 n ++ []) = _ :=
    integer?_append Nat.toDigits_ne_nil (fun _ => isDigit_of_mem_toDigits) nofun
  rw [List.append_nil, digitsValue_toDigits] at read
  exact read

theorem afterInteger?_toDigits (n : Nat) : afterInteger? (Nat.toDigits 10 n) = some [] := by
  have digits : ∀ c ∈ Nat.toDigits 10 n, c.isDigit = true := fun _ => isDigit_of_mem_toDigits
  have ten : base (Nat.toDigits 10 n) = (10, Nat.toDigits 10 n) := base_eq_ten fun c mem => digit_noBase (digits c mem)
  simp only [afterInteger?, ten, afterIntegerDigits?_digits digits false (.inr Nat.toDigits_ne_nil)]
  rfl

/-- An integer is no float. -/
theorem afterFloat?_toDigits (n : Nat) : afterFloat? (Nat.toDigits 10 n) = none := by
  have digits : ∀ c ∈ Nat.toDigits 10 n, isDigitOrUnderscore c = true := fun c mem =>
    isDigitOrUnderscore_of_isDigit (isDigit_of_mem_toDigits mem)
  have all : (Nat.toDigits 10 n ++ []).dropWhile isDigitOrUnderscore = [] := dropWhile_append_of_stop digits rfl
  rw [List.append_nil] at all
  simp [afterFloat?, afterFloatDigits?, all]

/-! ## Numerals -/

section

open Binary64 (Numeral)

variable {t : Numeral}

theorem mem_scaled {c : Char} (mem : c ∈ t.scaled) : c = 'e' ∨ c = '-' ∨ c.isDigit = true := by
  rw [Numeral.scaled] at mem
  cases exponent : t.exponent with
  | none => simp [exponent] at mem
  | some e =>
    simp only [exponent, List.mem_cons] at mem
    exact mem.imp_right mem_toString

theorem mem_behind {c : Char} (mem : c ∈ t.pointed ++ t.scaled) : c = '.' ∨ c = 'e' ∨ c = '-' ∨ c.isDigit = true := by
  rcases List.mem_append.1 mem with mem | mem
  · rw [Numeral.pointed] at mem
    split at mem
    · cases mem
    · rcases List.mem_cons.1 mem with rfl | mem
      · exact .inl rfl
      · exact .inr (.inr (.inr (t.partDigits c mem)))
  · exact .inr (mem_scaled mem)

/-- What ends the digits of an integer in a numeral makes it none. -/
theorem integerDigits?_behind (value : Nat) : integerDigits? 10 value true (t.pointed ++ t.scaled) = none := by
  obtain ⟨e, -, -, behind⟩ | ⟨-, behind⟩ := t.behind_cases
  · have letter : isExponentLetter 'e' = true := rfl
    have digit : digit? 'e' = some 14 := rfl
    simpa [behind, integerDigits?, letter, digit] using isExponent_toString e
  · rw [behind]
    rfl

/-- A numeral with a point or an exponent is no integer. -/
theorem integer?_chars (t : Numeral) : integer? t.chars = none := by
  have decimal : ∀ c ∈ t.pointed ++ t.scaled, c ≠ 'x' ∧ c ≠ 'o' ∧ c ≠ 'b' := by
    intro c mem
    rcases mem_behind mem with rfl | rfl | rfl | digit
    · decide
    · decide
    · decide
    · exact digit_noBase digit
  rw [Numeral.chars, integer?_append t.begun t.wholeDigits decimal, integerDigits?_behind]

/-- Nothing is left behind a numeral. -/
theorem afterFloat?_chars (t : Numeral) : afterFloat? t.chars = some [] := by
  have whole : t.chars.dropWhile isDigitOrUnderscore = t.pointed ++ t.scaled :=
    dropWhile_append_of_stop (fun c mem => isDigitOrUnderscore_of_isDigit (t.wholeDigits c mem))
      (Numeral.pointed_stops rfl rfl)
  have part : (t.part ++ t.scaled).dropWhile isDigitOrUnderscore = t.scaled :=
    dropWhile_append_of_stop (fun c mem => isDigitOrUnderscore_of_isDigit (t.partDigits c mem))
      (Numeral.scaled_stops rfl)
  have digits : afterFloatDigits? t.chars = some [] := by
    rw [afterFloatDigits?, t.head?_isDigit_chars, whole]
    obtain ⟨e, -, -, behind⟩ | ⟨some, behind⟩ := t.behind_cases
    · rw [behind]
      exact afterExponent?_toString e
    · obtain ⟨c, more, begins⟩ := List.exists_cons_of_ne_nil some
      have digit := t.partDigits c (by simp [begins])
      have first : ((t.part ++ t.scaled).head?.any fun c => c = '.' || startsIdentifier c) = false := by
        simp [begins, (digit_ne digit).2.1, startsIdentifier_digit digit]
      rw [behind]
      simp only [Bool.not_true, Bool.false_eq_true, if_false, first, part]
      rw [Numeral.scaled]
      cases t.exponent with
      | none => rfl
      | some e =>
        have letter : isExponentLetter 'e' = true := rfl
        simp only [letter, if_true, afterExponent?_toString, Option.some_or]
  rw [afterFloat?, digits]
  rfl

/-! A numeral has no underscore and no plus sign, so that all of it counts. -/

theorem floatDigits_digit (exponent : Bool) {c : Char} (digit : c.isDigit = true) (rest : List Char) :
    floatDigits exponent (c :: rest) = (c :: (floatDigits exponent rest).1, (floatDigits exponent rest).2) := by
  simp [floatDigits, (digit_ne digit).1, digit]

theorem floatDigits_point (exponent : Bool) (rest : List Char) :
    floatDigits exponent ('.' :: rest) = ('.' :: (floatDigits exponent rest).1, (floatDigits exponent rest).2) := rfl

theorem floatDigits_minus (exponent : Bool) (rest : List Char) :
    floatDigits exponent ('-' :: rest) = ('-' :: (floatDigits exponent rest).1, (floatDigits exponent rest).2) := by
  simp [floatDigits, isExponentLetter]

theorem floatDigits_letter {rest : List Char} (scaled : isExponent false rest = true) :
    floatDigits false ('e' :: rest) = ('e' :: (floatDigits true rest).1, (floatDigits true rest).2) := by
  simp [floatDigits, isExponentLetter, scaled]

theorem floatDigits_append (exponent : Bool) (digits : ∀ c ∈ ds, c.isDigit = true) :
    floatDigits exponent (ds ++ rest) = (ds ++ (floatDigits exponent rest).1, (floatDigits exponent rest).2) := by
  induction ds with
  | nil => rfl
  | cons c ds ih =>
    rw [List.cons_append, floatDigits_digit exponent (digits c List.mem_cons_self),
      ih fun c mem => digits c (List.mem_cons_of_mem _ mem)]
    rfl

theorem floatDigits_digits (exponent : Bool) (digits : ∀ c ∈ ds, c.isDigit = true) :
    floatDigits exponent ds = (ds, []) := by
  have all : floatDigits exponent (ds ++ []) = _ := floatDigits_append exponent digits
  simpa [floatDigits] using all

theorem floatDigits_toString (i : Int) : floatDigits true (toString i).toList = ((toString i).toList, []) := by
  have digits : ∀ c ∈ Nat.toDigits 10 i.natAbs, c.isDigit = true := fun _ => isDigit_of_mem_toDigits
  rw [toList_toString]
  split
  · rw [floatDigits_minus, floatDigits_digits true digits]
  · exact floatDigits_digits true digits

/-- An exponent is taken whole, with its sign. -/
theorem floatDigits_exponent (e : Int) :
    floatDigits false ('e' :: (toString e).toList) = ('e' :: (toString e).toList, []) := by
  rw [floatDigits_letter (isExponent_toString e), floatDigits_toString]

theorem floatDigits_scaled (t : Numeral) : floatDigits false t.scaled = (t.scaled, []) := by
  rw [Numeral.scaled]
  cases t.exponent with
  | none => rfl
  | some e => exact floatDigits_exponent e

/-- A numeral is taken whole. -/
theorem floatDigits_chars (t : Numeral) : floatDigits false t.chars = (t.chars, []) := by
  have behind : floatDigits false (t.pointed ++ t.scaled) = (t.pointed ++ t.scaled, []) := by
    obtain ⟨e, -, -, behind⟩ | ⟨-, behind⟩ := t.behind_cases
    · rw [behind, floatDigits_exponent]
    · rw [behind, floatDigits_point, floatDigits_append false t.partDigits, floatDigits_scaled]
  rw [Numeral.chars, floatDigits_append false t.wholeDigits, behind]

/-- A numeral is read as the float of its magnitude. -/
theorem float?_chars (t : Numeral) : float? t.chars = some (.ofMagnitude t.magnitude, []) := by
  simp only [float?, floatDigits_chars, t.read?_chars]
  rfl

end

end StoredProperty.Source.Number
