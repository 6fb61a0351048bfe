import StoredProperty.Accessor
import StoredProperty.Proofs.Text.Lines

/-!
# The lines of an accessor's bodies

Where no text of an accessor has a line feed, the getter's body has four lines and the setter's one, and each of them
is known. What the texts are does not matter otherwise: they stand inside their lines, so that no carriage return of
theirs comes before a line feed.
-/

namespace StoredProperty.Accessor

open Text

variable {a : Accessor} {standardStore : String}

/-- The last line of the getter's body. -/
def readLine (a : Accessor) (standardStore : String) : String :=
  a.store.source standardStore ++ "." ++ a.read.method ++ "(" ++ a.key ++ ")"
    ++ if a.read.fallsBack then ".unwrap_or_else(|| " ++ a.default ++ ".into())" else ""

/-- The getter's text, cut where its lines end. -/
theorem getter_render (a : Accessor) (standardStore : String) :
    (a.render standardStore).getter =
      ("if !" ++ a.store.source standardStore ++ ".contains(" ++ a.key ++ ") \x7b") ++ "\n"
        ++ (("    return " ++ a.default ++ ";") ++ "\n" ++ ("\x7d" ++ "\n" ++ a.readLine standardStore)) := by
  simp [render, readLine, ← String.toList_inj]

theorem readLine_ne_empty (a : Accessor) (standardStore : String) : a.readLine standardStore ≠ "" := by
  intro empty
  simpa [readLine] using congrArg String.length empty

/-- Where the texts of the accessor are single lines, so is the line that reads. -/
theorem oneLine_readLine (store : OneLine (a.store.source standardStore)) (key : OneLine a.key)
    (default : OneLine a.default) : OneLine (a.readLine standardStore) := by
  have method : OneLine a.read.method := by cases a.read <;> decide
  have fallback : OneLine (if a.read.fallsBack then ".unwrap_or_else(|| " ++ a.default ++ ".into())" else "") := by
    split
    · simp only [oneLine_append, default, and_true]
      decide
    · decide
  simp only [readLine, oneLine_append, store, method, key, fallback, and_true, true_and]
  decide

/-- The getter has four lines, and each text stands within one of them. -/
theorem lines_getter (store : OneLine (a.store.source standardStore)) (key : OneLine a.key)
    (default : OneLine a.default) :
    lines (a.render standardStore).getter =
      ["if !" ++ a.store.source standardStore ++ ".contains(" ++ a.key ++ ") \x7b", "    return " ++ a.default ++ ";",
        "\x7d", a.readLine standardStore] := by
  have test : OneLine ("if !" ++ a.store.source standardStore ++ ".contains(" ++ a.key ++ ") \x7b") := by
    simp only [oneLine_append, store, key, and_true]
    decide
  have give : OneLine ("    return " ++ a.default ++ ";") := by
    simp only [oneLine_append, default, and_true]
    decide
  have testEnds : ("if !" ++ a.store.source standardStore ++ ".contains(" ++ a.key ++ ") \x7b").toList.getLast? =
      some '\x7b' :=
    getLast?_toList_append (by decide)
  have giveEnds : ("    return " ++ a.default ++ ";").toList.getLast? = some ';' := getLast?_toList_append (by decide)
  rw [getter_render, lines_lineFeed test (testEnds ▸ by decide), lines_lineFeed give (giveEnds ▸ by decide),
    lines_lineFeed (by decide) (by decide),
    lines_of_oneLine (oneLine_readLine store key default) (readLine_ne_empty a standardStore)]

/-- The setter is a single line. -/
theorem lines_setter (store : OneLine (a.set.store.source standardStore)) (key : OneLine a.set.key) :
    lines (a.render standardStore).setter = [(a.render standardStore).setter] := by
  have some : (a.render standardStore).setter ≠ "" := by
    intro empty
    simpa [render] using congrArg String.length empty
  refine lines_of_oneLine ?_ some
  have value : OneLine newValue := by decide
  simp only [render, oneLine_append, store, key, value, and_true, true_and]
  decide

end StoredProperty.Accessor
