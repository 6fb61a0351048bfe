import StoredProperty.Proofs.Text.Lines

/-!
# Rows of a text

The rows of a text are the parts between its line feeds, with nothing left out, so that they tell the whole text
(`rows_injective`). They differ from its lines in two ways: a line drops a carriage return at its end, and a line feed
at the end of the text begins a row but no line. Where the text does not end in a line feed, its lines are its rows once
the carriage returns in front of line feeds are dropped (`lines_eq_rows`); so the lines of such texts are the same
exactly when the texts are, up to these carriage returns (`lines_eq_lines_iff`).
-/

namespace StoredProperty.Text

def rows (s : String) : List String := (s.toList.splitOn '\n').map String.ofList

/-- A line feed in place of every carriage return that a line feed follows, and this line feed. -/
def plainEnds : List Char → List Char
  | [] => []
  | '\r' :: '\n' :: rest => '\n' :: plainEnds rest
  | c :: rest => c :: plainEnds rest

def withPlainEnds (s : String) : String := String.ofList (plainEnds s.toList)

/-- The text has lines, and does not end where one more would begin. -/
structure EndsInLine (s : String) : Prop where
  filled : s ≠ ""
  ending : s.toList.getLast? ≠ some '\n'

variable {s t line : String} {cs : List Char}

theorem EndsInLine.of_last {c : Char} (last : s.toList.getLast? = some c) (other : c ≠ '\n') : EndsInLine s where
  filled := by
    rintro rfl
    cases last
  ending := by
    rw [last]
    exact fun here => other (Option.some.inj here)

/-- A text can be put together again from its rows. -/
theorem rows_injective (same : rows s = rows t) : s = t := by
  have parts : s.toList.splitOn '\n' = t.toList.splitOn '\n' :=
    (List.map_inj_right fun _ _ => String.ofList_inj.1).1 same
  calc
    s = String.ofList (['\n'].intercalate (s.toList.splitOn '\n')) := by
      rw [List.intercalate_splitOn, String.ofList_toList]
    _ = String.ofList (['\n'].intercalate (t.toList.splitOn '\n')) := by rw [parts]
    _ = t := by rw [List.intercalate_splitOn, String.ofList_toList]

theorem rows_of_oneLine (one : OneLine line) : rows line = [line] := by
  rw [rows, List.splitOn_eq_singleton one, List.map_singleton, String.ofList_toList]

/-- A line feed ends a row. -/
theorem rows_lineFeed (one : OneLine line) (rest : String) : rows (line ++ "\n" ++ rest) = line :: rows rest := by
  have parts : (line ++ "\n" ++ rest).toList = line.toList ++ '\n' :: rest.toList := by simp
  rw [rows, parts, List.splitOn_append_cons_self_of_not_mem one, List.map_cons, String.ofList_toList]
  rfl

/-! ## Lines and rows -/

theorem getLast?_tail {c d : Char} (ending : (c :: cs).getLast? ≠ some d) (more : cs ≠ []) :
    cs.getLast? ≠ some d := by
  cases cs with
  | nil => exact absurd rfl more
  | cons e cs => simpa using ending

/-- A line feed splits both alike; any other character goes in front of the first part of what is behind it. -/
theorem lineList_eq_splitOn (filled : cs ≠ []) (ending : cs.getLast? ≠ some '\n') :
    lineList cs = (plainEnds cs).splitOn '\n' := by
  fun_induction lineList cs with
  | case1 => exact absurd rfl filled
  | case2 rest ih =>
    have more : rest ≠ [] := by
      rintro rfl
      exact ending rfl
    rw [ih more (getLast?_tail ending more)]
    simp [plainEnds, List.splitOn_cons_eq_if_modifyHead]
  | case3 rest ih =>
    have more : rest ≠ [] := by
      rintro rfl
      exact ending rfl
    rw [ih more (getLast?_tail (getLast?_tail ending (by simp)) more)]
    simp [plainEnds, List.splitOn_cons_eq_if_modifyHead]
  | case4 c rest feed pair none ih =>
    cases rest with
    | nil =>
      have single : '\n' ∉ [c] := fun mem => feed (List.mem_singleton.1 mem).symm
      rw [plainEnds.eq_3 c [] pair, plainEnds, List.splitOn_eq_singleton single]
    | cons d rest =>
      rw [ih (List.cons_ne_nil d rest) (getLast?_tail ending (List.cons_ne_nil d rest))] at none
      exact absurd none (List.splitOn_ne_nil _ _)
  | case5 c rest feed pair line more first ih =>
    have filled : rest ≠ [] := by
      rintro rfl
      cases first
    rw [plainEnds.eq_3 c rest pair, List.splitOn_cons_eq_if_modifyHead, if_neg (by simpa using feed),
      ← ih filled (getLast?_tail ending filled), first, List.modifyHead_cons]

/-- A text that ends in a line has as its lines the rows of the text with plain line ends. -/
theorem lines_eq_rows (ends : EndsInLine s) : lines s = rows (withPlainEnds s) := by
  have chars : s.toList ≠ [] := by simpa using ends.filled
  rw [lines, rows, withPlainEnds, String.toList_ofList, lineList_eq_splitOn chars ends.ending]

/-- Texts that end in a line have the same lines when they differ in line ends only. -/
theorem lines_eq_lines_iff (hs : EndsInLine s) (ht : EndsInLine t) :
    lines s = lines t ↔ withPlainEnds s = withPlainEnds t := by
  rw [lines_eq_rows hs, lines_eq_rows ht]
  constructor
  · exact rows_injective
  · exact congrArg rows

theorem not_mem_of_mem_lineList {l : List Char} (mem : l ∈ lineList cs) : '\n' ∉ l := by
  fun_induction lineList cs generalizing l with
  | case1 => cases mem
  | case2 rest ih | case3 rest ih =>
    rcases List.mem_cons.1 mem with rfl | mem
    · exact List.not_mem_nil
    · exact ih mem
  | case4 c rest feed pair none ih =>
    obtain rfl := List.mem_singleton.1 mem
    exact fun here => feed (List.mem_singleton.1 here).symm
  | case5 c rest feed pair line more first ih =>
    rcases List.mem_cons.1 mem with rfl | mem
    · intro here
      rcases List.mem_cons.1 here with rfl | here
      · exact feed rfl
      · exact ih (first ▸ List.mem_cons_self) here
    · exact ih (first ▸ List.mem_cons_of_mem _ mem)

/-- Every line of a text is a single one. -/
theorem oneLine_of_mem_lines (mem : line ∈ lines s) : OneLine line := by
  obtain ⟨l, part, rfl⟩ := List.mem_map.1 mem
  rw [OneLine, String.toList_ofList]
  exact not_mem_of_mem_lineList part

/-! ## Indented lines -/

def indent (line : String) : String := "    " ++ line

/-- The row stands behind four blanks. -/
def isIndented (row : String) : Bool := "    ".toList.isPrefixOf row.toList

theorem isIndented_indent (line : String) : isIndented (indent line) = true := by
  simp [isIndented, indent]

/-- The lines of a text are rows of the indented text. -/
theorem rows_indented (s rest : String) : rows (indented s ++ rest) = (lines s).map indent ++ rows rest := by
  have blanks : OneLine "    " := by decide
  unfold indented
  have one : ∀ line ∈ lines s, OneLine line := fun line => oneLine_of_mem_lines
  generalize lines s = ls at one ⊢
  induction ls with
  | nil => simp
  | cons line ls ih =>
    obtain ⟨here, later⟩ := List.forall_mem_cons.1 one
    have row : OneLine (indent line) := oneLine_append.2 ⟨blanks, here⟩
    rw [List.map_cons, String.join_cons, String.append_assoc, ← indent, rows_lineFeed row, ih later, List.map_cons,
      List.cons_append]

end StoredProperty.Text
