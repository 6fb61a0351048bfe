import Mathlib.Data.List.Forall2
import StoredProperty.Proofs.Settings.Getter

/-!
# White space around stored texts

A text is trimmed before it is read as a truth value, an integer or a float, so white space around it is not seen by
these readings; neither is, by the first of them, the case of its letters. Two histories of which one writes some texts
with white space around them leave stores that differ in this only (`Stores.padded_runSteps`), and every property that
is no text reads the same from both. A text property reads the white space, too: `Property.padding_unseen`.
-/

namespace StoredProperty

open Text

namespace Text

/-- The same character, or the same ASCII letter in the other case. -/
inductive SameLetter : Char → Char → Prop
  | same (c : Char) : SameLetter c c
  | lowered {c d : Char} (capital : c.isUpper = true) (small : d.toNat = c.toNat + 32) : SameLetter c d
  | raised {c d : Char} (capital : d.isUpper = true) (small : c.toNat = d.toNat + 32) : SameLetter c d

/-- The texts are the same but for the case of ASCII letters. -/
def SameLetters (s t : String) : Prop := List.Forall₂ SameLetter s.toList t.toList

variable {c d : Char} {cs ds : List Char}

theorem isUpper_iff : c.isUpper = true ↔ 65 ≤ c.toNat ∧ c.toNat ≤ 90 := by
  constructor
  · intro capital
    obtain ⟨low, high⟩ := of_decide_eq_true capital
    exact ⟨UInt32.le_iff_toNat_le.1 low, UInt32.le_iff_toNat_le.1 high⟩
  · rintro ⟨low, high⟩
    exact decide_eq_true ⟨UInt32.le_iff_toNat_le.2 low, UInt32.le_iff_toNat_le.2 high⟩

theorem toLower_of_not_isUpper (small : c.isUpper = false) : c.toLower = c := dif_neg (of_decide_eq_false small)

/-- A capital is 32 code points below its small letter. -/
theorem toNat_toLower (capital : c.isUpper = true) : c.toLower.toNat = c.toNat + 32 := by
  have range := isUpper_iff.1 capital
  have small : c.val.toNat + 32 < 2 ^ 32 := by
    rw [Char.toNat_val]
    omega
  have value : c.toLower.val = c.val + 32 := congrArg Char.val (dif_pos (of_decide_eq_true capital))
  calc
    c.toLower.toNat = (c.val + 32).toNat := congrArg UInt32.toNat value
    _ = (c.val.toNat + 32) % 2 ^ 32 := UInt32.toNat_add _ _
    _ = c.toNat + 32 := Nat.mod_eq_of_lt small

/-- A capital letter becomes the small one, which stays. -/
theorem toLower_of_isUpper (capital : c.isUpper = true) (small : d.toNat = c.toNat + 32) :
    c.toLower = d ∧ d.toLower = d := by
  have range := isUpper_iff.1 capital
  constructor
  · apply Char.toNat_inj.1
    rw [toNat_toLower capital, small]
  · apply toLower_of_not_isUpper
    rw [← Bool.not_eq_true, isUpper_iff]
    omega

/-- The cases of a letter have one small letter. -/
theorem SameLetter.toLower_eq (h : SameLetter c d) : c.toLower = d.toLower := by
  cases h with
  | same => rfl
  | lowered capital small | raised capital small =>
    obtain ⟨lower, fixed⟩ := toLower_of_isUpper capital small
    rw [lower, fixed]

/-- No letter is blank. -/
theorem isBlank_of_letter (low : 65 ≤ c.toNat) (high : c.toNat ≤ 122) : isBlank c = false := by
  simp [isBlank, Ranges.has, whiteSpace]
  omega

/-- The case of a letter does not make it blank. -/
theorem SameLetter.isBlank_eq (h : SameLetter c d) : isBlank c = isBlank d := by
  cases h with
  | same => rfl
  | lowered capital small | raised capital small =>
    have range := isUpper_iff.1 capital
    rw [isBlank_of_letter (by omega) (by omega), isBlank_of_letter (by omega) (by omega)]

theorem forall₂_trimLeft (h : List.Forall₂ SameLetter cs ds) : List.Forall₂ SameLetter (trimLeft cs) (trimLeft ds) := by
  unfold trimLeft
  induction h with
  | nil => exact .nil
  | @cons c d cs ds first rest ih =>
    rw [List.dropWhile_cons, List.dropWhile_cons, first.isBlank_eq]
    split
    · exact ih
    · exact .cons first rest

/-- Trimming takes the same places off both texts. -/
theorem forall₂_trimChars (h : List.Forall₂ SameLetter cs ds) :
    List.Forall₂ SameLetter (trimChars cs) (trimChars ds) :=
  List.rel_reverse (forall₂_trimLeft (List.rel_reverse (forall₂_trimLeft h)))

theorem map_toLower_eq (h : List.Forall₂ SameLetter cs ds) : cs.map Char.toLower = ds.map Char.toLower := by
  induction h with
  | nil => rfl
  | cons first rest ih => rw [List.map_cons, List.map_cons, first.toLower_eq, ih]

/-- White space around a text does not show once it is trimmed. -/
theorem trimChars_around {before after : String} (hb : isBlankText before = true) (ha : isBlankText after = true)
    (s : String) : trimChars (before ++ s ++ after).toList = trimChars s.toList := by
  rw [String.toList_append, String.toList_append]
  exact trimChars_padded (List.all_eq_true.1 hb) (List.all_eq_true.1 ha) s.toList

end Text

namespace StoredValue

/-- The case of letters does not change a boolean. -/
theorem asBool_sameLetters {s t : String} (same : SameLetters s t) : asBool (.string t) = asBool (.string s) := by
  rw [asBool, asBool, isTrueWord, isTrueWord, map_toLower_eq (forall₂_trimChars same)]

/-- The value, or a text with white space around it. -/
inductive Padded : StoredValue → StoredValue → Prop
  | same (v : StoredValue) : Padded v v
  | text {s before after : String} (hb : isBlankText before = true) (ha : isBlankText after = true) :
      Padded (.string s) (.string (before ++ s ++ after))

variable {v w : StoredValue}

/-- Blanks around a text and the case of its letters do not change the boolean. -/
theorem Padded.asBool_eq (h : v.Padded w) : w.asBool = v.asBool := by
  cases h with
  | same => rfl
  | text hb ha => rw [asBool, asBool, trimChars_around hb ha]

/-- Blanks around a text do not change the integer. -/
theorem Padded.asInteger_eq (h : v.Padded w) : w.asInteger = v.asInteger := by
  cases h with
  | same => rfl
  | text hb ha => rw [asInteger, asInteger, trimChars_around hb ha]

/-- Blanks around a text do not change the float. -/
theorem Padded.asFloat_eq (h : v.Padded w) : w.asFloat = v.asFloat := by
  cases h with
  | same => rfl
  | text hb ha => rw [asFloat, asFloat, trimChars_around hb ha]

/-- Only a text is read with the white space. -/
theorem Padded.readAs_eq (h : v.Padded w) {d : StoredValue} (other : d.kind ≠ .string) : w.readAs d = v.readAs d := by
  cases d with
  | bool b => exact congrArg bool h.asBool_eq
  | int n => exact congrArg int h.asInteger_eq
  | float x => exact congrArg float h.asFloat_eq
  | string s => exact absurd rfl other

end StoredValue

/-- The step, or one that writes a text with white space around it instead. -/
inductive Step.Padded : Step → Step → Prop
  | same (step : Step) : Padded step step
  | set {p : Property} {v w : StoredValue} (value : v.Padded w) : Padded (.set p v) (.set p w)
  | operate {place : Place} {key : String} {v w : StoredValue} (value : v.Padded w) :
      Padded (.operate place (.set key v)) (.operate place (.set key w))

namespace Stores

/-- Every cell holds what it holds in the other stores, or this text with white space around it. -/
def Padded (s t : Stores) : Prop := ∀ place key, Option.Rel StoredValue.Padded (s.value? place key) (t.value? place key)

variable {s t : Stores}

theorem Padded.refl (s : Stores) : s.Padded s := by
  intro place key
  cases s.value? place key with
  | none => exact .none
  | some v => exact .some (.same v)

/-- The same effect on both cells. -/
theorem rel_apply {x y : Option StoredValue} (cell : Option.Rel StoredValue.Padded x y) (e : Effect) :
    Option.Rel StoredValue.Padded (e.apply x) (e.apply y) := by
  cases e with
  | kept => exact cell
  | put v => exact .some (.same v)
  | dropped => exact .none

/-- **Step.** -/
theorem padded_afterStep (stores : s.Padded t) {x y : Step} (step : x.Padded y) :
    (s.afterStep x).Padded (t.afterStep y) := by
  intro place key
  rw [value?_afterStep, value?_afterStep]
  cases step with
  | same => exact rel_apply (stores place key) _
  | @set p v w value =>
    simp only [Step.effect]
    split
    · exact .some value
    · exact stores place key
  | @operate q k v w value =>
    simp only [Step.effect, StoreOperation.effect]
    split
    · split
      · exact .some value
      · exact stores place key
    · exact stores place key

/-- **Run.** -/
theorem padded_runSteps (stores : s.Padded t) {past past' : List Step} (steps : List.Forall₂ Step.Padded past past') :
    (s.runSteps past).Padded (t.runSteps past') := by
  induction steps generalizing s t with
  | nil => exact stores
  | cons step rest ih => exact ih (padded_afterStep stores step)

end Stores

namespace Property

variable {p : Property} {s t : Stores}

/-- A getter that does not return texts does not see padding in its cell. -/
theorem get_of_padded (cell : Option.Rel StoredValue.Padded (s.value? p.place p.key) (t.value? p.place p.key))
    (other : p.default.kind ≠ .string) : p.get t = p.get s := by
  rw [get_eq, get_eq]
  generalize s.value? p.place p.key = x at cell
  generalize t.value? p.place p.key = y at cell
  cases cell with
  | none => rfl
  | some value => exact value.readAs_eq other

/-- **White space around a text is seen by texts only.** A value is read as the same truth value, integer and float with
it and without it, and as the same truth value in any case of the letters, but as a text it is read as it stands. So the
getter of a property that is no text answers the same where its cell holds a text and where it holds this text with
white space around it; one of a text answers with the white space. And whatever was done to the stores, white space
around the texts that were written does not change the answer of a getter that is of no text. -/
theorem padding_unseen :
    (∀ before after, isBlankText before = true → isBlankText after = true → ∀ s : String,
      StoredValue.asBool (.string (before ++ s ++ after)) = StoredValue.asBool (.string s) ∧
      StoredValue.asInteger (.string (before ++ s ++ after)) = StoredValue.asInteger (.string s) ∧
      StoredValue.asFloat (.string (before ++ s ++ after)) = StoredValue.asFloat (.string s) ∧
      StoredValue.asText? (.string (before ++ s ++ after)) = some (before ++ s ++ after)) ∧
    (∀ s t, SameLetters s t → StoredValue.asBool (.string t) = StoredValue.asBool (.string s)) ∧
    -- a property whose cell holds such a text
    (∀ before after, isBlankText before = true → isBlankText after = true → ∀ (p : Property) (s t : Stores) text,
      s.value? p.place p.key = some (.string text) →
      t.value? p.place p.key = some (.string (before ++ text ++ after)) →
      (p.default.kind ≠ .string → p.get t = p.get s) ∧
      (p.default.kind = .string → p.get t = .string (before ++ text ++ after))) ∧
    -- histories with such texts
    ∀ (s : Stores) (past past' : List Step), List.Forall₂ Step.Padded past past' →
      ∀ p : Property, p.default.kind ≠ .string → p.get (s.runSteps past') = p.get (s.runSteps past) := by
  refine ⟨fun before after hb ha s => ?_, fun s t => StoredValue.asBool_sameLetters,
    fun before after hb ha p s t text held held' => ⟨fun other => ?_, fun kind => ?_⟩,
    fun s past past' steps p other => ?_⟩
  · have padded : StoredValue.Padded (.string s) (.string (before ++ s ++ after)) := .text hb ha
    exact ⟨padded.asBool_eq, padded.asInteger_eq, padded.asFloat_eq, rfl⟩
  · apply get_of_padded _ other
    rw [held, held']
    exact .some (.text hb ha)
  · rw [get_of_held held']
    exact StoredValue.readAs_of_kind kind.symm
  · exact get_of_padded (Stores.padded_runSteps (.refl s) steps p.place p.key) other

/-- A no-break space and an ideographic one around a number that an integer and a text share, written by an operation on
the store, and by the setter of the text after another text was removed. -/
theorem padding_unseen_wide :
    let pageSize : Property := ⟨.int 10, "page_size", .own⟩
    let pageLabel : Property := ⟨.string "shared", "page_size", .own⟩
    let wide := "\u00a0" ++ "-7" ++ "\u3000\n"
    let s := Settings.fresh.after .own (.set "page_size" (.string "-7"))
    let t := Settings.fresh.after .own (.set "page_size" (.string wide))
    let remove : Step := .operate .own (.remove "page_size")
    isBlankText "\u00a0" = true ∧ isBlankText "\u3000\n" = true ∧ SameLetters "yes" "yEs" ∧
      StoredValue.asBool (.string "yEs") = true ∧ StoredValue.asInteger (.string wide) = -7 ∧
      pageSize.get t = pageSize.get s ∧ pageLabel.get t = .string wide ∧
      List.Forall₂ Step.Padded [remove, .set pageLabel (.string "-7")] [remove, .set pageLabel (.string wide)] ∧
      pageSize.get (s.runSteps [remove, .set pageLabel (.string wide)]) =
        pageSize.get (s.runSteps [remove, .set pageLabel (.string "-7")]) := by
  intro pageSize pageLabel wide s t remove
  have hb : isBlankText "\u00a0" = true := by decide
  have ha : isBlankText "\u3000\n" = true := by decide
  have letters : SameLetters "yes" "yEs" :=
    .cons (.same 'y') (.cons (.raised (by decide) (by decide)) (.cons (.same 's') .nil))
  have steps :
      List.Forall₂ Step.Padded [remove, .set pageLabel (.string "-7")] [remove, .set pageLabel (.string wide)] :=
    .cons (.same remove) (.cons (.set (.text hb ha)) .nil)
  obtain ⟨values, cases, cells, runs⟩ := padding_unseen
  obtain ⟨-, integer, -⟩ := values "\u00a0" "\u3000\n" hb ha "-7"
  have held : s.value? .own "page_size" = some (.string "-7") := by decide
  have held' : t.value? .own "page_size" = some (.string wide) := by decide
  have size := cells "\u00a0" "\u3000\n" hb ha pageSize s t "-7" held held'
  have label := cells "\u00a0" "\u3000\n" hb ha pageLabel s t "-7" held held'
  refine ⟨hb, ha, letters, (cases "yes" "yEs" letters).trans (by decide), integer.trans (by decide +kernel),
    size.1 (by decide), label.2 rfl, steps, runs s _ _ steps pageSize (by decide)⟩

end Property

end StoredProperty
