import Mathlib.Data.Nat.Digits.Defs
import StoredProperty.Proofs.Source.Number

/-!
# Integers as they are written

An integer is digits with underscores among them, behind the mark of their base if that is not ten, and in front of a
suffix. `Number.IsInteger` says so by rules, and what the number is by `Nat.ofDigits`; `Number.integer?_eq_some_iff`
says that the reader of integers follows these rules and no others.
-/

namespace StoredProperty.Source.Number

/-- The marks of the bases other than ten. -/
def marks : List (Char × Nat) := [('x', 16), ('o', 8), ('b', 2)]

/-- Digits of a base, with underscores among them. -/
def AreDigits (base : Nat) (cs : List Char) : Prop := ∀ c ∈ cs, c = '_' ∨ ∃ d < base, digit? c = some d

/-- The number that digits write in a base, the last of them for the units. -/
def written (base : Nat) (cs : List Char) : Nat := Nat.ofDigits base (cs.filterMap digit?).reverse

/-- What may stand behind the digits of an integer: none of them, and in base ten nothing that makes it a float. -/
inductive EndsDigits (base : Nat) : List Char → Prop
  | nothing : EndsDigits base []
  | suffix {c : Char} {rest : List Char} (underscore : c ≠ '_') (digit : ∀ d < base, digit? c ≠ some d)
      (point : base = 10 → c ≠ '.') (exponent : base = 10 → isExponentLetter c = true → isExponent false rest = false) :
      EndsDigits base (c :: rest)

/-- The text is an integer with a value and a suffix. Without a mark the first character is a decimal digit; behind a
mark there is at least one digit. The suffix is whatever is left behind the digits. -/
inductive IsInteger : List Char → Nat → List Char → Prop
  | decimal {ds suffix : List Char} (unmarked : base (ds ++ suffix) = (10, ds ++ suffix))
      (begins : ds.head?.any Char.isDigit = true) (digits : AreDigits 10 ds) (ends : EndsDigits 10 suffix) :
      IsInteger (ds ++ suffix) (written 10 ds) suffix
  | marked {mark : Char} {b : Nat} {ds suffix : List Char} (known : (mark, b) ∈ marks)
      (some : ∃ c ∈ ds, c ≠ '_') (digits : AreDigits b ds) (ends : EndsDigits b suffix) :
      IsInteger ('0' :: mark :: (ds ++ suffix)) (written b ds) suffix

/-! ## Runs of digits -/

section

variable {b value v : Nat} {any : Bool} {c : Char} {cs ds suffix : List Char}

/-- The value that digits lead to when a value has been read in front of them. -/
def continued (base value : Nat) (cs : List Char) : Nat := (cs.filterMap digit?).foldl (fun v d => base * v + d) value

theorem continued_zero : continued b 0 ds = written b ds := by
  rw [continued, written, Nat.ofDigits_eq_foldr, List.foldr_reverse]
  simp only [Nat.cast_id, Nat.add_comm]

/-- An underscore between digits adds nothing. -/
theorem continued_underscore : continued b value ('_' :: ds) = continued b value ds := rfl

theorem continued_digit {d : Nat} (digit : digit? c = some d) :
    continued b value (c :: ds) = continued b (b * value + d) ds := by
  simp [continued, digit]

/-- Digits end where a suffix begins. -/
theorem integerDigits?_of_ends (ends : EndsDigits b suffix) : integerDigits? b value true suffix = some (value, suffix) := by
  cases ends with
  | nothing => rfl
  | @suffix c rest underscore digit point exponent =>
    rw [integerDigits?, if_neg underscore]
    cases known : digit? c with
    | some d =>
      have large : ¬ d < b := fun small => digit d small known
      have float : (isExponentLetter c && b = 10 && isExponent false rest) = false := by
        by_contra other
        simp only [Bool.not_eq_false, Bool.and_eq_true, decide_eq_true_eq] at other
        obtain ⟨⟨letter, ten⟩, power⟩ := other
        rw [exponent ten letter] at power
        cases power
      simp [large, float]
    | none =>
      have float : (c = '.' && b = 10 : Bool) = false := by
        by_contra other
        simp only [Bool.not_eq_false, Bool.and_eq_true, decide_eq_true_eq] at other
        exact point other.2 other.1
      simp [float]

/-- A run of digits in front of anything is taken into the value. -/
theorem integerDigits?_run (digits : AreDigits b ds) (more : any = true ∨ ∃ c ∈ ds, c ≠ '_') (rest : List Char) :
    integerDigits? b value any (ds ++ rest) = integerDigits? b (continued b value ds) true rest := by
  induction ds generalizing value any with
  | nil =>
    obtain rfl : any = true := by simpa using more
    rfl
  | cons c ds ih =>
    have others : AreDigits b ds := fun c mem => digits c (List.mem_cons_of_mem _ mem)
    rw [List.cons_append, integerDigits?]
    by_cases underscore : c = '_'
    · subst underscore
      have still : any = true ∨ ∃ c ∈ ds, c ≠ '_' := by simpa using more
      rw [if_pos rfl, ih others still, continued_underscore]
    · obtain ⟨d, small, digit⟩ := (digits c List.mem_cons_self).resolve_left underscore
      rw [if_neg underscore, digit, continued_digit digit]
      simp [small, ih others (.inl rfl)]

/-- What has been read as the digits of an integer is a run of digits with something else behind it. -/
theorem digits_of_integerDigits? (read : integerDigits? b value any cs = some (v, suffix)) :
    ∃ ds, cs = ds ++ suffix ∧ AreDigits b ds ∧ (any = true ∨ ∃ c ∈ ds, c ≠ '_') ∧ v = continued b value ds ∧
      EndsDigits b suffix := by
  fun_induction integerDigits? b value any cs with
  | case1 value =>
    cases read
    exact ⟨[], rfl, nofun, .inl rfl, rfl, .nothing⟩
  | case3 value any rest ih =>
    obtain ⟨ds, rfl, digits, more, rfl, ends⟩ := ih read
    refine ⟨'_' :: ds, rfl, ?_, more.imp_right ?_, rfl, ends⟩
    · simpa [AreDigits] using digits
    · rintro ⟨c, mem, other⟩
      exact ⟨c, List.mem_cons_of_mem _ mem, other⟩
  | case4 value any c rest underscore d digit small ih =>
    obtain ⟨ds, rfl, digits, -, rfl, ends⟩ := ih read
    refine ⟨c :: ds, rfl, ?_, .inr ⟨c, List.mem_cons_self, underscore⟩, (continued_digit digit).symm, ends⟩
    intro x mem
    rcases List.mem_cons.1 mem with rfl | mem
    · exact .inr ⟨d, small, digit⟩
    · exact digits x mem
  | case6 value c rest underscore d digit large float =>
    cases read
    refine ⟨[], rfl, nofun, .inl rfl, rfl, .suffix underscore ?_ ?_ ?_⟩
    · rintro e small same
      rw [digit] at same
      cases same
      exact large small
    · rintro rfl rfl
      cases digit
    · rintro ten letter
      simpa [ten, letter] using float
  | case9 value c rest underscore digit float =>
    cases read
    refine ⟨[], rfl, nofun, .inl rfl, rfl, .suffix underscore ?_ ?_ ?_⟩
    · rintro e - same
      rw [digit] at same
      cases same
    · rintro ten rfl
      simp [ten] at float
    · rintro - letter
      simp only [isExponentLetter, Bool.or_eq_true, decide_eq_true_eq] at letter
      rcases letter with rfl | rfl <;> cases digit
  | _ => cases read

end

/-! ## Whole integers -/

section

variable {cs suffix : List Char} {v : Nat}

theorem IsInteger.head?_isDigit (h : IsInteger cs v suffix) : cs.head?.any Char.isDigit = true := by
  cases h with
  | @decimal ds _ _ begins _ _ =>
    cases ds with
    | nil => cases begins
    | cons c ds => exact begins
  | marked => rfl

/-- A mark behind a zero settles the base. -/
theorem base_of_mark {mark : Char} {b : Nat} (known : (mark, b) ∈ marks) (rest : List Char) :
    base ('0' :: mark :: rest) = (b, rest) ∧ b ≠ 10 := by
  simp only [marks, List.mem_cons, Prod.mk.injEq, List.not_mem_nil, or_false] at known
  rcases known with ⟨rfl, rfl⟩ | ⟨rfl, rfl⟩ | ⟨rfl, rfl⟩ <;> exact ⟨rfl, by decide⟩

/-- A text is decimal, or it begins with a zero and a mark. -/
theorem base_cases (cs : List Char) :
    base cs = (10, cs) ∨ ∃ mark b rest, (mark, b) ∈ marks ∧ cs = '0' :: mark :: rest := by
  fun_cases base cs with
  | case1 rest => exact .inr ⟨'x', 16, rest, by decide, rfl⟩
  | case2 rest => exact .inr ⟨'o', 8, rest, by decide, rfl⟩
  | case3 rest => exact .inr ⟨'b', 2, rest, by decide, rfl⟩
  | case4 => exact .inl rfl

/-- Without a mark the digits are those of base ten, and one of them begins. -/
theorem integer?_of_unmarked (unmarked : base cs = (10, cs)) :
    integer? cs = if cs.head?.any Char.isDigit then integerDigits? 10 0 false cs else none := by
  simp [integer?, unmarked]

/-- Behind a mark the digits are those of its base. -/
theorem integer?_of_mark {mark : Char} {b : Nat} (known : (mark, b) ∈ marks) (rest : List Char) :
    integer? ('0' :: mark :: rest) = integerDigits? b 0 false rest := by
  obtain ⟨read, other⟩ := base_of_mark known rest
  rw [integer?, read]
  cases rest with
  | nil => rfl
  | cons c rest => simp [other]

/-- An integer of any base is read with its value and its suffix. -/
theorem integer?_of_isInteger (h : IsInteger cs v suffix) : integer? cs = some (v, suffix) := by
  cases h with
  | @decimal ds _ unmarked begins digits ends =>
    obtain ⟨c, rest, rfl, digit⟩ := Text.exists_cons_of_digit begins
    have first : c ≠ '_' := by
      rintro rfl
      cases digit
    have some : false = true ∨ ∃ x ∈ c :: rest, x ≠ '_' := .inr ⟨c, List.mem_cons_self, first⟩
    rw [integer?_of_unmarked unmarked, integerDigits?_run digits some, integerDigits?_of_ends ends, continued_zero]
    simp [digit]
  | @marked mark b ds _ known some digits ends =>
    rw [integer?_of_mark known, integerDigits?_run digits (.inr some), integerDigits?_of_ends ends, continued_zero]

/-- **The reader of integers follows the rules**, and reads nothing else as an integer. -/
theorem integer?_eq_some_iff : integer? cs = some (v, suffix) ↔ IsInteger cs v suffix := by
  refine ⟨fun read => ?_, integer?_of_isInteger⟩
  rcases base_cases cs with unmarked | ⟨mark, b, rest, known, rfl⟩
  · rw [integer?_of_unmarked unmarked] at read
    split at read
    · next begins =>
      obtain ⟨ds, rfl, digits, some, rfl, ends⟩ := digits_of_integerDigits? read
      rw [continued_zero]
      refine .decimal unmarked ?_ digits ends
      obtain ⟨c, mem, -⟩ := some.resolve_left nofun
      cases ds with
      | nil => cases mem
      | cons first rest => exact begins
    · cases read
  · rw [integer?_of_mark known] at read
    obtain ⟨ds, rfl, digits, some, rfl, ends⟩ := digits_of_integerDigits? read
    rw [continued_zero]
    exact .marked known (some.resolve_left nofun) digits ends

end

end StoredProperty.Source.Number
