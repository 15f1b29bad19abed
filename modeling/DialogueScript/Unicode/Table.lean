import DialogueScript.Text.Cut
import DialogueScript.Text.Digit

/-!
# Tables of code points

Properties of characters are given by tables. A row of a table is a range of code points with the numbers that belong to
it; rows are in increasing order and do not meet. In a module a table stands as text: rows between blanks, each the ends
of its range in hexadecimal with a dash between them, or one code point, and then its numbers behind a bracket `>`.
-/

namespace DialogueScript.Unicode

/-- A range of code points, ends included, and the numbers that belong to it. -/
structure Row where
  first : Nat
  last : Nat
  image : List Nat
  deriving DecidableEq, Repr

/-- A table: rows in increasing order. -/
abbrev Table := List Row

/-- The row that a text describes. -/
def Row.ofText (s : List Char) : Row :=
  let (range, image) := match cut '>' s with
    | some (range, image) => (range, (splitOn '.' image).map (digitsValue 16))
    | none => (s, [])
  match cut '-' range with
  | some (first, last) => ⟨digitsValue 16 first, digitsValue 16 last, image⟩
  | none => ⟨digitsValue 16 range, digitsValue 16 range, image⟩

namespace Table

/-- The table that lines of text describe. -/
def ofText (lines : List String) : Table := (lines.flatMap fun line => splitOn ' ' line.toList).map Row.ofText

/-- The row of a code point. -/
def row? (t : Table) (n : Nat) : Option Row := (t.find? fun r => decide (n ≤ r.last)).filter fun r => r.first ≤ n

/-- Whether a code point is in a row of a table. -/
def contains (t : Table) (n : Nat) : Bool := (t.row? n).isSome

end Table

end DialogueScript.Unicode
