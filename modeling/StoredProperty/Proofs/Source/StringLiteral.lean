import StoredProperty.Source.StringLiteral

/-!
# Quoted texts are string literals

A text is written between quotes with an escape for each of its characters (`StringLiteral.Escapes`); how an escape may
look is said once, in `StringLiteral.IsEscape`. The automaton that reads literals goes through an escape and adds just
the character that it stands for. So it comes to the closing quote with the text that was written
(`StringLiteral.read?_of_escapes`), and to no quote that closes before. `Text.IsLiteralOf` says this of a whole text.
-/

namespace StoredProperty

namespace Source

theorem hexDigit?_digitChar {d : Nat} (h : d < 16) : hexDigit? d.digitChar = some d := by
  revert d
  decide

/-- A character is told by its code point. -/
theorem char?_toNat (c : Char) : char? c.toNat = some c := by
  have valid : c.toNat.isValidChar := c.valid
  rw [char?, if_pos valid, Char.ofNat_toNat]

namespace StringLiteral

/-! ## Escapes -/

/-- What stands for a character in a literal. -/
inductive IsEscape : Char → List Char → Prop
  | short {letter c : Char} (known : shortEscape? letter = some c) : IsEscape c ['\\', letter]
  | codePoint (c : Char) : IsEscape c (Text.codePointEscape c)
  | zero : IsEscape '\x00' ['\\', 'x', '0', '0']
  | itself {c : Char} (quote : c ≠ '"') (backslash : c ≠ '\\') (lineFeed : c ≠ '\n') (carriageReturn : c ≠ '\r') :
      IsEscape c [c]

/-- What a quoted text writes for a character is an escape of it. -/
theorem isEscape_escape (c : Char) : IsEscape c (Text.escape c) := by
  fun_cases Text.escape c
  case case7 => exact .codePoint c
  case case8 carriageReturn lineFeed quote backslash _ => exact .itself quote backslash lineFeed carriageReturn
  -- the characters with a letter of their own
  all_goals
    subst c
    exact .short rfl

/-- A text with an escape for each character. -/
inductive Escapes : List Char → List Char → Prop
  | nil : Escapes [] []
  | cons {c : Char} {e cs es : List Char} (first : IsEscape c e) (rest : Escapes cs es) : Escapes (c :: cs) (e ++ es)

theorem escapes_flatMap (cs : List Char) : Escapes cs (cs.flatMap Text.escape) := by
  induction cs with
  | nil => exact .nil
  | cons c cs ih => exact .cons (isEscape_escape c) ih

/-- What the code writes for a text escapes it. -/
theorem escapes_escaped (cs : List Char) : Escapes cs (escaped cs) := by
  induction cs with
  | nil => exact .nil
  | cons c cs ih =>
    rw [escaped]
    split
    · next zero =>
      have zero : c = '\x00' := by simp_all
      exact .cons (e := ['\\', 'x', '0', '0']) (zero ▸ .zero) ih
    · exact .cons (isEscape_escape c) ih

/-! ## Steps of the automaton -/

section Steps

variable {k : StringKind} {m next : Mode} {c : Char}

theorem body?_silent (stays : m.closes c = false) (step : m.next k c = some (next, [])) (rest : List Char) :
    body? k m (c :: rest) = body? k next rest := by
  simp [body?, stays, step]

theorem body?_adds {v : Char} (stays : m.closes c = false) (step : m.next k c = some (.plain, [v])) (rest : List Char) :
    body? k m (c :: rest) = (body? k .plain rest).map fun (value, rest) => (v :: value, rest) := by
  simp [body?, stays, step]

end Steps

/-! ## Code points -/

theorem mem_toDigits_sixteen {n : Nat} {c : Char} (h : c ∈ Nat.toDigits 16 n) : ∃ d < 16, c = d.digitChar := by
  induction n using Nat.base_induction 16 (by decide) with
  | single d small =>
    rw [Nat.toDigits_of_lt_base small, List.mem_singleton] at h
    exact ⟨d, small, h⟩
  | digit m d small positive ih =>
    rw [← Nat.toDigits_append_toDigits (by decide) positive small, Nat.toDigits_of_lt_base small,
      List.mem_append, List.mem_singleton] at h
    rcases h with h | h
    · exact ih h
    · exact ⟨d, small, h⟩

/-- A code point has six hex digits at most. -/
theorem length_codePoint_le (c : Char) : (Nat.toDigits 16 c.toNat).length ≤ 6 := by
  rw [Nat.length_toDigits_le_iff (by decide) (by decide)]
  have valid : c.toNat.isValidChar := c.valid
  simp only [Nat.isValidChar] at valid
  omega

/-- One more hex digit of a code point. -/
theorem body?_codeDigit {value digits d : Nat} (small : d < 16) (room : digits < 6) (rest : List Char) :
    body? .text (.code value digits) (d.digitChar :: rest) =
      body? .text (.code (16 * value + d) (digits + 1)) rest := by
  have brace : d.digitChar ≠ '\x7d' := Nat.digitChar_ne _ (by decide)
  have underscore : d.digitChar ≠ '_' := Nat.digitChar_ne _ (by decide)
  refine body?_silent (by simp [Mode.closes]) ?_ rest
  simp [Mode.next, brace, underscore, room, hexDigit?_digitChar small]

/-- All hex digits of a number that has six at most. -/
theorem body?_codeDigits (n : Nat) (short : (Nat.toDigits 16 n).length ≤ 6) (rest : List Char) :
    body? .text (.code 0 0) (Nat.toDigits 16 n ++ rest) = body? .text (.code n (Nat.toDigits 16 n).length) rest := by
  induction n using Nat.base_induction 16 (by decide) generalizing rest with
  | single d small =>
    rw [Nat.toDigits_of_lt_base small, List.singleton_append, body?_codeDigit small (by decide)]
    simp
  | digit m d small positive ih =>
    rw [← Nat.toDigits_append_toDigits (by decide) positive small, Nat.toDigits_of_lt_base small] at short ⊢
    rw [List.length_append, List.length_singleton] at short ⊢
    rw [List.append_assoc, ih (by omega), List.singleton_append, body?_codeDigit small (by omega)]

/-- The escape of a code point is read as the character. -/
theorem body?_codePoint (c : Char) (rest : List Char) :
    body? .text .plain (Text.codePointEscape c ++ rest) =
      (body? .text .plain rest).map fun (value, rest) => (c :: value, rest) := by
  have some : 0 < (Nat.toDigits 16 c.toNat).length := Nat.length_toDigits_pos
  have parts : Text.codePointEscape c ++ rest =
      '\\' :: 'u' :: '\x7b' :: (Nat.toDigits 16 c.toNat ++ '\x7d' :: rest) := by simp [Text.codePointEscape]
  rw [parts, body?_silent rfl rfl, body?_silent rfl rfl, body?_silent rfl rfl,
    body?_codeDigits _ (length_codePoint_le c)]
  refine body?_adds (by simp [Mode.closes]) ?_ rest
  simp [Mode.next, StringKind.admits, some, char?_toNat]

/-! ## Reading -/

/-- An escape adds its character and nothing else. -/
theorem body?_escape {c : Char} {e : List Char} (h : IsEscape c e) (rest : List Char) :
    body? .text .plain (e ++ rest) = (body? .text .plain rest).map fun (value, rest) => (c :: value, rest) := by
  cases h with
  | @short letter _ known =>
    have notHex : letter ≠ 'x' := by rintro rfl; cases known
    have notCode : letter ≠ 'u' := by rintro rfl; cases known
    have notFeed : letter ≠ '\n' := by rintro rfl; cases known
    have notReturn : letter ≠ '\r' := by rintro rfl; cases known
    rw [List.cons_append, body?_silent rfl rfl]
    refine body?_adds (by simp [Mode.closes]) ?_ rest
    simp [Mode.next, Mode.ofEscape, notHex, notCode, notFeed, notReturn, known]
  | codePoint => exact body?_codePoint c rest
  | zero =>
    simp only [List.cons_append, List.nil_append]
    rw [body?_silent rfl rfl, body?_silent rfl rfl, body?_silent rfl rfl]
    exact body?_adds (v := '\x00') rfl rfl rest
  | itself quote backslash lineFeed carriageReturn =>
    refine body?_adds (by simp [Mode.closes, quote]) ?_ rest
    simp [Mode.next, Mode.ofPlain, backslash, carriageReturn, StringKind.admits]

/-- Escapes are read as the text, up to the quote behind them. -/
theorem body?_escapes {cs es : List Char} (h : Escapes cs es) (rest : List Char) :
    body? .text .plain (es ++ '"' :: rest) = some (cs, rest) := by
  induction h with
  | nil => simp [body?, Mode.closes]
  | cons first _ ih => rw [List.append_assoc, body?_escape first, ih]; rfl

/-- A literal of escapes is read as the text that they stand for, whatever is behind it. -/
theorem read?_of_escapes {cs es : List Char} (h : Escapes cs es) (rest : List Char) :
    read? ('"' :: es ++ '"' :: rest) = some (.text, cs, rest) := by
  simp [read?, body?_escapes h]

/-- What is read of a text is read of a longer one, and more is left over. -/
theorem body?_append {k : StringKind} {m : Mode} {cs value rest : List Char} (h : body? k m cs = some (value, rest))
    (more : List Char) : body? k m (cs ++ more) = some (value, rest ++ more) := by
  induction cs generalizing m value with
  | nil => cases h
  | cons c cs ih =>
    rw [body?] at h
    rw [List.cons_append, body?]
    split at h
    · next closes =>
      cases h
      rw [if_pos closes]
    · next stays =>
      rw [if_neg stays]
      cases step : m.next k c with
      | none => rw [step] at h; cases h
      | some next =>
        simp only [step, Option.map_eq_some_iff] at h ⊢
        obtain ⟨⟨v, r⟩, there, both⟩ := h
        cases both
        exact ⟨_, ih there, rfl⟩

/-- A literal of escapes is closed by its last character and not before. -/
theorem read?_of_front {cs es front back : List Char} (h : Escapes cs es) (parts : '"' :: es ++ ['"'] = front ++ back)
    (short : back ≠ []) : read? front = none := by
  cases front with
  | nil => rfl
  | cons c front =>
    obtain ⟨rfl, inside⟩ : c = '"' ∧ es ++ ['"'] = front ++ back := by simpa [eq_comm] using parts
    cases closed : body? .text .plain front with
    | none => simp [read?, closed]
    | some result =>
      -- then the whole literal would be closed there too
      have whole := body?_append closed back
      rw [← inside, body?_escapes h, Option.some_inj, Prod.mk.injEq] at whole
      exact absurd (List.append_eq_nil_iff.1 whole.2.symm).2 short

/-- No escape has a line break in it. -/
theorem IsEscape.not_lineBreak {c d : Char} {e : List Char} (h : IsEscape c e) (mem : d ∈ e) : d ≠ '\n' ∧ d ≠ '\r' := by
  cases h with
  | @short letter _ known =>
    simp only [List.mem_cons, List.not_mem_nil, or_false] at mem
    rcases mem with rfl | rfl
    · decide
    · constructor <;> rintro rfl <;> cases known
  | codePoint =>
    have digits : ∀ d < 16, d.digitChar ≠ '\n' ∧ d.digitChar ≠ '\r' := by decide
    simp only [Text.codePointEscape, List.cons_append, List.mem_cons, List.mem_append, List.not_mem_nil,
      or_false] at mem
    rcases mem with rfl | rfl | rfl | mem | rfl
    · decide
    · decide
    · decide
    · obtain ⟨n, small, rfl⟩ := mem_toDigits_sixteen mem
      exact digits n small
    · decide
  | zero =>
    simp only [List.mem_cons, List.not_mem_nil, or_false] at mem
    rcases mem with rfl | rfl | rfl | rfl
    all_goals decide
  | itself _ _ lineFeed carriageReturn =>
    rw [List.mem_singleton.1 mem]
    exact ⟨lineFeed, carriageReturn⟩

/-- No escape has a line end in it. -/
theorem Escapes.not_lineBreak {cs es : List Char} (h : Escapes cs es) : ∀ d ∈ es, d ≠ '\n' ∧ d ≠ '\r' := by
  induction h with
  | nil => simp
  | cons first _ ih =>
    intro d mem
    rcases List.mem_append.1 mem with mem | mem
    · exact first.not_lineBreak mem
    · exact ih d mem

end StringLiteral

end Source

/-! ## Whole literals -/

namespace Text

open Source

/-- The text is one string literal for the value: it is closed by its last character, whatever follows, and not before,
and stands on one line. -/
structure IsLiteralOf (text value : String) : Prop where
  read : ∀ rest, StringLiteral.read? (text.toList ++ rest) = some (.text, value.toList, rest)
  closed : ∀ front back, text.toList = front ++ back → back ≠ [] → StringLiteral.read? front = none
  unbroken : ∀ c ∈ text.toList, c ≠ '\n' ∧ c ≠ '\r'

/-- Escapes between quotes are a literal. -/
theorem isLiteralOf_of_escapes {s : String} {es : List Char} (h : StringLiteral.Escapes s.toList es) :
    IsLiteralOf (String.ofList ('"' :: es ++ ['"'])) s where
  read rest := by
    rw [String.toList_ofList, List.append_assoc]
    exact StringLiteral.read?_of_escapes h rest
  closed front back parts short := by
    rw [String.toList_ofList] at parts
    exact StringLiteral.read?_of_front h parts short
  unbroken c mem := by
    rw [String.toList_ofList, List.mem_append, List.mem_cons, List.mem_singleton] at mem
    rcases mem with (rfl | mem) | rfl
    · decide
    · exact h.not_lineBreak c mem
    · decide

/-- A quoted text is a literal of the text. -/
theorem isLiteralOf_quoted (s : String) : IsLiteralOf (quoted s) s :=
  isLiteralOf_of_escapes (StringLiteral.escapes_flatMap s.toList)

/-- What the code writes for a text is a literal of it. -/
theorem isLiteralOf_write (s : String) : IsLiteralOf (StringLiteral.write s.toList) s :=
  isLiteralOf_of_escapes (StringLiteral.escapes_escaped s.toList)

/-- A literal has one value. -/
theorem IsLiteralOf.unique {text s t : String} (hs : IsLiteralOf text s) (ht : IsLiteralOf text t) : s = t := by
  have same := (hs.read []).symm.trans (ht.read [])
  have chars : s.toList = t.toList := by simpa using same
  exact String.toList_inj.1 chars

/-- Quoted texts are told apart. -/
theorem quoted_injective {s t : String} (h : quoted s = quoted t) : s = t :=
  (isLiteralOf_quoted s).unique (h ▸ isLiteralOf_quoted t)

end Text

end StoredProperty
