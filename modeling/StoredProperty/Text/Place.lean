/-!
# Places in a text

A place in a text is the number of bytes in front of it, in UTF-8. A text can be cut at a place that lies between two
characters, and nowhere else.
-/

namespace StoredProperty.Text

/-- What follows a place. -/
def after? : Nat → List Char → Option (List Char)
  | 0, cs => some cs
  | _ + 1, [] => none
  | n + 1, c :: cs => if c.utf8Size ≤ n + 1 then after? (n + 1 - c.utf8Size) cs else none

/-- What stands before a place. -/
def before? : Nat → List Char → Option (List Char)
  | 0, _ => some []
  | _ + 1, [] => none
  | n + 1, c :: cs => if c.utf8Size ≤ n + 1 then (before? (n + 1 - c.utf8Size) cs).map (c :: ·) else none

/-- What stands from one place to another. -/
def between? (start stop : Nat) (cs : List Char) : Option (List Char) :=
  (after? start cs).bind (before? (stop - start))

/-- The first character of a kind, its place counted on from a given one, and what follows it. -/
def find? (kind : Char → Bool) : Nat → List Char → Option (Nat × Char × List Char)
  | _, [] => none
  | place, c :: cs => if kind c then some (place, c, cs) else find? kind (place + c.utf8Size) cs

end StoredProperty.Text
