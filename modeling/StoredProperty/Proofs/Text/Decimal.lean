import Mathlib.Algebra.Group.Nat.Defs
import Mathlib.Data.List.TakeDrop
import StoredProperty.Text.Decimal

/-!
# Integers written in base ten

An integer is written with its digits, behind a minus sign when it is negative, and its digits are read back as what it
is (`digitsValue_toDigits`). Zeros at the end of the digits are a power of ten. What is read as an integer is digits with
or without a sign, and nothing else (`integer?_eq_some_iff`).
-/

namespace StoredProperty.Text

theorem toList_toString (i : Int) :
    (toString i).toList = if i < 0 then '-' :: Nat.toDigits 10 i.natAbs else Nat.toDigits 10 i.natAbs := by
  rw [Int.toString_eq_repr, Int.repr_eq_if]
  split
  · next h =>
    rw [if_neg (by omega), Nat.toList_repr]
    congr 1
    omega
  · next h =>
    rw [if_pos (by omega), String.toList_append, Nat.toList_repr]
    have same : (-i).toNat = i.natAbs := by omega
    rw [same]
    rfl

theorem isDigit_of_mem_toDigits {n : Nat} {c : Char} (h : c ∈ Nat.toDigits 10 n) : c.isDigit = true :=
  Nat.isDigit_of_mem_toDigits (by decide) (by decide) h

/-- A digit is the character of its value. -/
theorem exists_digitChar {c : Char} (h : c.isDigit = true) : ∃ d < 10, c = d.digitChar := by
  obtain ⟨low, high⟩ := Char.isDigit_iff_toNat.1 h
  change 48 ≤ c.toNat at low
  change c.toNat ≤ 57 at high
  refine ⟨c.toNat - 48, by omega, Char.toNat_inj.1 ?_⟩
  rw [Nat.toNat_digitChar_of_lt_ten (by omega)]
  omega

/-- What can be seen of the ten digits holds of every digit. -/
theorem forall_digit {p : Char → Prop} (ten : ∀ d < 10, p d.digitChar) {c : Char} (h : c.isDigit = true) : p c := by
  obtain ⟨d, small, rfl⟩ := exists_digitChar h
  exact ten d small

/-- An integer is written with digits and perhaps a sign. -/
theorem mem_toString {i : Int} {c : Char} (h : c ∈ (toString i).toList) : c = '-' ∨ c.isDigit = true := by
  rw [toList_toString] at h
  split at h
  · rcases List.mem_cons.1 h with rfl | h
    · exact .inl rfl
    · exact .inr (isDigit_of_mem_toDigits h)
  · exact .inr (isDigit_of_mem_toDigits h)

/-! ## The value of digits -/

theorem digitsValue_eq (ds : List Char) : digitsValue ds = Nat.ofDigitChars 10 ds 0 := rfl

@[simp] theorem digitsValue_toDigits (n : Nat) : digitsValue (Nat.toDigits 10 n) = n := by
  rw [digitsValue_eq, Nat.ofDigitChars_ten_toDigits]

/-- Zeros behind digits multiply by powers of ten. -/
theorem digitsValue_append_zeros (ds : List Char) (j : Nat) :
    digitsValue (ds ++ List.replicate j '0') = digitsValue ds * 10 ^ j := by
  simp only [digitsValue_eq, Nat.ofDigitChars_append, Nat.ofDigitChars_replicate_zero, Nat.mul_comm]

/-- Zeros in front of digits count for nothing. -/
theorem digitsValue_zeros_append (j : Nat) (ds : List Char) :
    digitsValue (List.replicate j '0' ++ ds) = digitsValue ds := by
  simp only [digitsValue_eq, Nat.ofDigitChars_append, Nat.ofDigitChars_replicate_zero, Nat.mul_zero]

/-- A multiple of a power of ten is written with zeros behind. -/
theorem toDigits_mul_pow {n : Nat} (positive : 0 < n) (j : Nat) :
    Nat.toDigits 10 (n * 10 ^ j) = Nat.toDigits 10 n ++ List.replicate j '0' := by
  induction j with
  | zero => simp
  | succ j ih =>
    have some : 0 < n * 10 ^ j := Nat.mul_pos positive (Nat.pow_pos (by decide))
    have next := Nat.toDigits_append_toDigits (b := 10) (d := 0) (by decide) some (by decide)
    rw [Nat.toDigits_zero, ih] at next
    rw [List.replicate_succ', ← List.append_assoc, next]
    congr 1
    rw [Nat.pow_succ, ← Nat.mul_assoc, Nat.mul_comm 10, Nat.add_zero]

/-! ## Where digits begin and end -/

theorem exists_cons_of_digit {cs : List Char} (begins : cs.head?.any Char.isDigit = true) :
    ∃ c rest, cs = c :: rest ∧ c.isDigit = true := by
  cases cs with
  | nil => cases begins
  | cons c rest => exact ⟨c, rest, rfl, by simpa using begins⟩

theorem head?_isDigit_of_digits {ds : List Char} (some : ds ≠ []) (digits : ∀ c ∈ ds, c.isDigit = true) :
    ds.head?.any Char.isDigit = true := by
  obtain ⟨c, rest, rfl⟩ := List.exists_cons_of_ne_nil some
  simpa using digits c List.mem_cons_self

section

variable {p : Char → Bool} {ds rest : List Char}

theorem dropWhile_append_of_stop (all : ∀ c ∈ ds, p c = true) (stops : rest.head?.any p = false) :
    (ds ++ rest).dropWhile p = rest := by
  rw [List.dropWhile_append_of_pos all]
  cases rest with
  | nil => rfl
  | cons c rest => exact List.dropWhile_cons_of_neg (by simpa using stops)

/-- What a predicate holds for is cut off where it first fails. -/
theorem span_append_of_stop (all : ∀ c ∈ ds, p c = true) (stops : rest.head?.any p = false) :
    (ds ++ rest).span p = (ds, rest) := by
  have front : (ds ++ rest).takeWhile p = ds := by
    rw [List.takeWhile_append_of_pos all]
    cases rest with
    | nil => simp
    | cons c rest => rw [List.takeWhile_cons_of_neg (by simpa using stops), List.append_nil]
  rw [List.span_eq_takeWhile_dropWhile, front, dropWhile_append_of_stop all stops]

end

/-! ## Reading integers -/

theorem natural?_of_digits {ds : List Char} (some : ds ≠ []) (digits : ∀ c ∈ ds, c.isDigit = true) :
    natural? ds = .some (digitsValue ds) := by
  have all : ds.all Char.isDigit = true := List.all_eq_true.2 digits
  simp [natural?, some, all]

theorem natural?_toDigits (n : Nat) : natural? (Nat.toDigits 10 n) = some n := by
  rw [natural?_of_digits Nat.toDigits_ne_nil fun _ => isDigit_of_mem_toDigits, digitsValue_toDigits]

/-- An integer is read back. -/
theorem integer?_toString (i : Int) : integer? (toString i).toList = some i := by
  rw [toList_toString]
  split
  · next negative =>
    rw [integer?, natural?_toDigits]
    simp only [Option.map_some, Option.some_inj, Int.ofNat_eq_natCast]
    omega
  · next natural =>
    rw [integer?, natural?_toDigits]
    · simp only [Option.map_some, Option.some_inj, Int.ofNat_eq_natCast]
      omega
    -- the digits have no sign in front
    all_goals
      intro ds begins
      have first := isDigit_of_mem_toDigits (begins ▸ List.mem_cons_self)
      cases first

/-- An optional sign in front of digits, at least one, and the integer that they write in base ten. -/
inductive WritesInteger : List Char → Int → Prop
  | plain {ds : List Char} (some : ds ≠ []) (digits : ∀ c ∈ ds, c.isDigit = true) :
      WritesInteger ds (Nat.ofDigitChars 10 ds 0)
  | plus {ds : List Char} (some : ds ≠ []) (digits : ∀ c ∈ ds, c.isDigit = true) :
      WritesInteger ('+' :: ds) (Nat.ofDigitChars 10 ds 0)
  | minus {ds : List Char} (some : ds ≠ []) (digits : ∀ c ∈ ds, c.isDigit = true) :
      WritesInteger ('-' :: ds) (-Nat.ofDigitChars 10 ds 0)

/-- Only digits are read, at least one, as their value. -/
theorem natural?_eq_some_iff {ds : List Char} {n : Nat} :
    natural? ds = some n ↔ ds ≠ [] ∧ (∀ c ∈ ds, c.isDigit = true) ∧ Nat.ofDigitChars 10 ds 0 = n := by
  constructor
  · intro read
    rw [natural?] at read
    split at read
    · cases read
    · next written =>
      cases read
      simp only [Bool.or_eq_true, Bool.not_eq_true', not_or, Bool.not_eq_false] at written
      exact ⟨by simpa using written.1, List.all_eq_true.1 written.2, rfl⟩
  · rintro ⟨some, digits, rfl⟩
    exact natural?_of_digits some digits

/-- Only what writes an integer is read, as this integer. -/
theorem integer?_eq_some_iff {cs : List Char} {i : Int} : integer? cs = some i ↔ WritesInteger cs i := by
  constructor
  · intro read
    rw [integer?.eq_def] at read
    split at read
    all_goals
      obtain ⟨n, number, rfl⟩ := Option.map_eq_some_iff.1 read
      obtain ⟨some, digits, rfl⟩ := natural?_eq_some_iff.1 number
    · exact .plus some digits
    · exact .minus some digits
    · exact .plain some digits
  · intro written
    cases written with
    | plain some digits =>
      -- a sign is no digit
      have first {c : Char} {rest : List Char} (begins : cs = c :: rest) : c.isDigit = true :=
        digits c (begins ▸ List.mem_cons_self)
      rw [integer?, natural?_of_digits some digits]
      · rfl
      · intro rest begins
        exact absurd (first begins) (by decide)
      · intro rest begins
        exact absurd (first begins) (by decide)
    | plus some digits =>
      rw [integer?, natural?_of_digits some digits]
      rfl
    | minus some digits =>
      rw [integer?, natural?_of_digits some digits]
      rfl

/-- A text is read as a 64-bit integer when it writes one. -/
theorem int64?_eq_some_iff {cs : List Char} {n : Int64} : int64? cs = some n ↔ WritesInteger cs n.toInt := by
  simp only [int64?, Option.bind_eq_some_iff, integer?_eq_some_iff, toInt64?_eq_some_iff]
  constructor
  · rintro ⟨i, written, rfl⟩
    exact written
  · intro written
    exact ⟨_, written, rfl⟩

end StoredProperty.Text
