import StoredProperty.Text.Blank

/-!
# Lines one by one

A line feed ends a line that has none of its own, unless the line ends in a carriage return, which would go with the
line feed (`lines_lineFeed`). A text without a line feed is a single line (`lines_of_oneLine`).
-/

namespace StoredProperty.Text

theorem lineList_lineFeed {line : List Char} (one : '\n' ∉ line) (ending : line.getLast? ≠ some '\r')
    (rest : List Char) : lineList (line ++ '\n' :: rest) = line :: lineList rest := by
  induction line with
  | nil => rfl
  | cons c line ih =>
    have feed : c ≠ '\n' := by rintro rfl; simp at one
    have tail : '\n' ∉ line := fun mem => one (List.mem_cons_of_mem c mem)
    -- a carriage return here is not the last character of its line
    have pair (more : List Char) : c = '\r' → line ++ '\n' :: rest = '\n' :: more → False := by
      rintro rfl begins
      cases line with
      | nil => simp at ending
      | cons d line => simp_all
    have ends : line.getLast? ≠ some '\r' := by
      cases line with
      | nil => simp
      | cons d line => simpa using ending
    rw [List.cons_append, lineList.eq_4 c _ feed pair, ih tail ends]

theorem lineList_of_one {line : List Char} (one : '\n' ∉ line) (some : line ≠ []) : lineList line = [line] := by
  induction line with
  | nil => exact absurd rfl some
  | cons c line ih =>
    have feed : c ≠ '\n' := by rintro rfl; simp at one
    have tail : '\n' ∉ line := fun mem => one (List.mem_cons_of_mem c mem)
    have pair (more : List Char) : c = '\r' → line = '\n' :: more → False := by
      rintro rfl rfl
      simp at one
    rw [lineList.eq_4 c _ feed pair]
    cases line with
    | nil => rfl
    | cons d line => rw [ih tail (by simp)]

/-- There is no line feed in the text. -/
def OneLine (s : String) : Prop := '\n' ∉ s.toList

instance (s : String) : Decidable (OneLine s) := inferInstanceAs (Decidable ('\n' ∉ s.toList))

@[simp] theorem oneLine_append {s t : String} : OneLine (s ++ t) ↔ OneLine s ∧ OneLine t := by
  simp [OneLine]

/-- A line feed ends the line in front of it, unless a carriage return stands between. -/
theorem lines_lineFeed {line : String} (one : OneLine line) (ending : line.toList.getLast? ≠ some '\r')
    (rest : String) : lines (line ++ "\n" ++ rest) = line :: lines rest := by
  have parts : (line ++ "\n" ++ rest).toList = line.toList ++ '\n' :: rest.toList := by simp
  rw [lines, parts, lineList_lineFeed one ending, List.map_cons, String.ofList_toList]
  rfl

theorem lines_of_oneLine {line : String} (one : OneLine line) (some : line ≠ "") : lines line = [line] := by
  have chars : line.toList ≠ [] := by simpa using some
  rw [lines, lineList_of_one one chars, List.map_singleton, String.ofList_toList]

/-- The last character of a text is the last one of its last part. -/
theorem getLast?_toList_append {s t : String} {c : Char} (last : t.toList.getLast? = some c) :
    (s ++ t).toList.getLast? = some c := by
  rw [String.toList_append, List.getLast?_append, last, Option.some_or]

end StoredProperty.Text
