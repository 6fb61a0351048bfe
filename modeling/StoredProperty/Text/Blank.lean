/-!
# White space and lines

A property of characters that a standard fixes is a list of closed ranges of code points. A character is blank when
Unicode's `White_Space` property holds for it. `trim` takes blank characters off both ends of a text, and a text is
blank when nothing is left of it.

A line ends at a line feed; one carriage return in front of the line feed belongs to the line's end. A text that
ends with a line feed has no empty last line.
-/

namespace StoredProperty.Text

/-- A set of code points: closed ranges, in increasing order. -/
abbrev Ranges := List (Nat × Nat)

def Ranges.has (ranges : Ranges) (c : Char) : Bool :=
  ranges.any fun r => r.1 ≤ c.toNat && c.toNat ≤ r.2

def whiteSpace : Ranges :=
  [(0x09, 0x0d), (0x20, 0x20), (0x85, 0x85), (0xa0, 0xa0), (0x1680, 0x1680), (0x2000, 0x200a),
   (0x2028, 0x2029), (0x202f, 0x202f), (0x205f, 0x205f), (0x3000, 0x3000)]

def isBlank (c : Char) : Bool := whiteSpace.has c

def trimLeft (cs : List Char) : List Char := cs.dropWhile isBlank

def trimRight (cs : List Char) : List Char := (cs.reverse.dropWhile isBlank).reverse

def trimChars (cs : List Char) : List Char := trimRight (trimLeft cs)

def trim (s : String) : String := String.ofList (trimChars s.toList)

/-- Nothing is left of the text after `trim`. -/
def isBlankText (s : String) : Bool := s.toList.all isBlank

/-! ## Lines -/

def lineList : List Char → List (List Char)
  | [] => []
  | '\n' :: rest => [] :: lineList rest
  | '\r' :: '\n' :: rest => [] :: lineList rest
  | c :: rest =>
    match lineList rest with
    | [] => [[c]]
    | line :: more => (c :: line) :: more

def lines (s : String) : List String := (lineList s.toList).map String.ofList

/-- Every line of `s` behind four blanks, each ended by a line feed. -/
def indented (s : String) : String :=
  String.join ((lines s).map fun line => "    " ++ line ++ "\n")

/-! ## Trimming -/

theorem trimLeft_eq_nil_iff {cs : List Char} : trimLeft cs = [] ↔ ∀ c ∈ cs, isBlank c = true := by
  induction cs with
  | nil => simp [trimLeft]
  | cons c cs ih =>
    by_cases h : isBlank c = true
    · have shorter : trimLeft (c :: cs) = trimLeft cs := by simp [trimLeft, h]
      rw [shorter, ih]
      simp [h]
    · simp [trimLeft, h]

theorem trimRight_eq_nil_iff {cs : List Char} : trimRight cs = [] ↔ ∀ c ∈ cs, isBlank c = true := by
  have reversed : trimLeft cs.reverse = [] ↔ ∀ c ∈ cs.reverse, isBlank c = true := trimLeft_eq_nil_iff
  rw [trimRight, List.reverse_eq_nil_iff]
  exact reversed.trans (by simp)

/-- What `trimLeft` leaves is blank throughout only when all of it was. -/
theorem forall_mem_trimLeft_iff {cs : List Char} :
    (∀ c ∈ trimLeft cs, isBlank c = true) ↔ ∀ c ∈ cs, isBlank c = true := by
  induction cs with
  | nil => rfl
  | cons c cs ih =>
    by_cases h : isBlank c = true
    · have shorter : trimLeft (c :: cs) = trimLeft cs := by simp [trimLeft, h]
      rw [shorter, ih]
      simp [h]
    · have whole : trimLeft (c :: cs) = c :: cs := by simp [trimLeft, h]
      rw [whole]

theorem isBlankText_iff {s : String} : isBlankText s = true ↔ trim s = "" := by
  rw [trim, String.ofList_eq_empty_iff, trimChars, trimRight_eq_nil_iff, forall_mem_trimLeft_iff]
  exact List.all_eq_true

section Padding

variable {a b : List Char} (ha : ∀ c ∈ a, isBlank c = true) (hb : ∀ c ∈ b, isBlank c = true)

include ha in
theorem trimLeft_append (cs : List Char) : trimLeft (a ++ cs) = trimLeft cs := List.dropWhile_append_of_pos ha

include hb in
theorem trimRight_append (cs : List Char) : trimRight (cs ++ b) = trimRight cs := by
  have reversed : ∀ c ∈ b.reverse, isBlank c = true := by simpa using hb
  rw [trimRight, List.reverse_append, List.dropWhile_append_of_pos reversed]
  rfl

include ha hb in
/-- White space around a text does not show in what is left of it. -/
theorem trimChars_padded (cs : List Char) : trimChars (a ++ cs ++ b) = trimChars cs := by
  rw [trimChars, List.append_assoc, trimLeft_append ha, trimChars]
  by_cases blank : trimLeft cs = []
  · have all : trimLeft (cs ++ b) = [] := by
      rw [trimLeft, List.dropWhile_append_of_pos (trimLeft_eq_nil_iff.1 blank)]
      exact trimLeft_eq_nil_iff.2 hb
    rw [all, blank]
  · have kept : trimLeft (cs ++ b) = trimLeft cs ++ b := by
      rw [trimLeft, List.dropWhile_append, if_neg (by rwa [List.isEmpty_iff])]
      rfl
    rw [kept, trimRight_append hb]

end Padding

theorem trim_padded {before after : String} (hb : ∀ c ∈ before.toList, isBlank c = true)
    (ha : ∀ c ∈ after.toList, isBlank c = true) (s : String) : trim (before ++ s ++ after) = trim s := by
  rw [trim, String.toList_append, String.toList_append, trimChars_padded hb ha]
  rfl

end StoredProperty.Text
