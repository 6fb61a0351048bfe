import StoredProperty.Proofs.Accessor.Body
import StoredProperty.Proofs.Text.Rows

/-!
# Reading the display form of an accessor

The display form has a row for each line of the two bodies, behind four blanks, and four rows of the frame, which are
not indented (`AccessorText.rows_display`). So the lines of the bodies can be read off it, whatever the texts in them
are (`AccessorText.display_eq_iff`). A body that was rendered has a last line, which does not end in a line feed, so
its lines tell the body up to the carriage returns in front of line feeds: `Accessor.display_determines_bodies`.
-/

namespace StoredProperty

open Text

namespace AccessorText

variable {t u : AccessorText}

/-- The rows of the display form of two bodies with the given lines. -/
def framed (getter setter : List String) : List String :=
  "get \x7b" :: (getter.map indent ++ "\x7d" :: "set \x7b" :: (setter.map indent ++ ["\x7d"]))

/-- What is displayed are the lines of both bodies, indented, in a frame. -/
theorem rows_display (t : AccessorText) : rows t.display = framed (lines t.getter) (lines t.setter) := by
  have parts : t.display =
      "get \x7b" ++ "\n" ++ (indented t.getter ++
        ("\x7d" ++ "\n" ++ ("set \x7b" ++ "\n" ++ (indented t.setter ++ "\x7d")))) := by
    simp [display, ← String.toList_inj]
  rw [parts, rows_lineFeed (by decide), rows_indented, rows_lineFeed (by decide), rows_lineFeed (by decide),
    rows_indented, rows_of_oneLine (by decide)]
  rfl

/-- A body ends at the first row that is not indented. -/
theorem map_indent_append_inj {ls ms : List String} {frame : String} {rest rest' : List String}
    (outside : isIndented frame = false) (same : ls.map indent ++ frame :: rest = ms.map indent ++ frame :: rest') :
    ls = ms ∧ rest = rest' := by
  have inside (line : String) : indent line ≠ frame := by
    intro here
    have indented := isIndented_indent line
    rw [here, outside] at indented
    cases indented
  induction ls generalizing ms with
  | nil =>
    cases ms with
    | nil => exact ⟨rfl, List.tail_eq_of_cons_eq same⟩
    | cons m ms => exact absurd (List.head_eq_of_cons_eq same).symm (inside m)
  | cons l ls ih =>
    cases ms with
    | nil => exact absurd (List.head_eq_of_cons_eq same) (inside l)
    | cons m ms =>
      obtain ⟨rfl, later⟩ := ih (List.tail_eq_of_cons_eq same)
      have first : indent l = indent m := List.head_eq_of_cons_eq same
      have line : l = m := by simpa [indent] using first
      exact ⟨by rw [line], later⟩

/-- The frame hides nothing: the lines of both bodies can be read off it. -/
theorem framed_inj {getter setter getter' setter' : List String} :
    framed getter setter = framed getter' setter' ↔ getter = getter' ∧ setter = setter' := by
  constructor
  · intro same
    obtain ⟨getters, rest⟩ := map_indent_append_inj (by decide) (List.tail_eq_of_cons_eq same)
    obtain ⟨setters, -⟩ := map_indent_append_inj (by decide) (List.tail_eq_of_cons_eq rest)
    exact ⟨getters, setters⟩
  · rintro ⟨rfl, rfl⟩
    rfl

/-- **What the display form tells of any two bodies is their lines.** -/
theorem display_eq_iff : t.display = u.display ↔ lines t.getter = lines u.getter ∧ lines t.setter = lines u.setter := by
  rw [← framed_inj, ← rows_display, ← rows_display]
  constructor
  · exact congrArg rows
  · exact rows_injective

/-- A getter's body that spells the rest of the frame. -/
example :
    rows (display ⟨"0;\r\n\x7d\nset \x7b", "s"⟩) =
      ["get \x7b", "    0;", "    \x7d", "    set \x7b", "\x7d", "set \x7b", "    s", "\x7d"] := by
  decide +kernel

/-- Nothing but the frame stands at the left margin. -/
theorem filter_framed (getter setter : List String) :
    (framed getter setter).filter (!isIndented ·) = ["get \x7b", "\x7d", "set \x7b", "\x7d"] := by
  have body (ls : List String) : (ls.map indent).filter (!isIndented ·) = [] := by
    simp [isIndented_indent]
  have opening : ["get \x7b"].filter (!isIndented ·) = ["get \x7b"] := by decide
  have middle : ["\x7d", "set \x7b"].filter (!isIndented ·) = ["\x7d", "set \x7b"] := by decide
  have closing : ["\x7d"].filter (!isIndented ·) = ["\x7d"] := by decide
  have parts : framed getter setter =
      ["get \x7b"] ++ (getter.map indent ++ (["\x7d", "set \x7b"] ++ (setter.map indent ++ ["\x7d"]))) := rfl
  rw [parts]
  simp only [List.filter_append, body, opening, middle, closing]
  rfl

end AccessorText

namespace Accessor

/-- A getter ends in a parenthesis, whatever its texts are. -/
theorem endsInLine_getter (a : Accessor) (standardStore : String) : EndsInLine (a.render standardStore).getter := by
  have last : (a.readLine standardStore).toList.getLast? = some ')' := by
    unfold readLine
    split
    · exact getLast?_toList_append (getLast?_toList_append (by decide))
    · rw [String.append_empty]
      exact getLast?_toList_append (by decide)
  apply EndsInLine.of_last (c := ')')
  · rw [getter_render]
    exact getLast?_toList_append (getLast?_toList_append (getLast?_toList_append last))
  · decide

theorem endsInLine_setter (a : Accessor) (standardStore : String) : EndsInLine (a.render standardStore).setter := by
  have last : (a.render standardStore).setter.toList.getLast? = some ';' := getLast?_toList_append (by decide)
  exact .of_last last (by decide)

/-- **The display form of an accessor determines its bodies**, but for carriage returns in front of line feeds. It has a
row for each line of the bodies, behind four blanks, and four other rows, which are not indented; the last one ends it.
So no line of a body is taken for a row of the frame, whatever the key, the default and the stores are. -/
theorem display_determines_bodies (a b : Accessor) (store store' : String) :
    ((a.render store).display = (b.render store').display ↔
      withPlainEnds (a.render store).getter = withPlainEnds (b.render store').getter ∧
        withPlainEnds (a.render store).setter = withPlainEnds (b.render store').setter) ∧
    rows (a.render store).display =
      "get \x7b" :: ((lines (a.render store).getter).map ("    " ++ ·) ++
        "\x7d" :: "set \x7b" :: ((lines (a.render store).setter).map ("    " ++ ·) ++ ["\x7d"])) ∧
    (rows (a.render store).display).filter (fun row => !isIndented row) = ["get \x7b", "\x7d", "set \x7b", "\x7d"] := by
  refine ⟨?_, AccessorText.rows_display _, ?_⟩
  · rw [AccessorText.display_eq_iff, lines_eq_lines_iff (a.endsInLine_getter store) (b.endsInLine_getter store'),
      lines_eq_lines_iff (a.endsInLine_setter store) (b.endsInLine_setter store')]
  · rw [AccessorText.rows_display, AccessorText.filter_framed]

end Accessor

end StoredProperty
