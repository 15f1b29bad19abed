import DialogueScript.Unicode.Composite
import DialogueScript.Unicode.Mark

/-!
# The composed form of a text

Texts that look the same can differ in how far characters are put together and in the order of marks that do not touch.
`compose` brings a text to one form in three steps: composites are taken apart, the marks behind a character are put in
the order of their combining classes, and what can be put together is. Texts are lists of code points here.
-/

namespace DialogueScript.Unicode

/-! ## Apart -/

/-- The parts of a code point, taken apart to a depth; composites are nested less than eight deep. -/
def apart : Nat → Nat → List Nat
  | 0, n => [n]
  | depth + 1, n =>
    match parts? n with
    | some (a, b) => apart depth a ++ [b]
    | none => [n]

/-! ## In order -/

/-- Puts a code point behind a text that is given last code point first: a mark goes before the marks of greater
class. -/
def setMark (n : Nat) : List Nat → List Nat
  | [] => [n]
  | m :: rest =>
    if 0 < combiningClass n && combiningClass n < combiningClass m then m :: setMark n rest else n :: m :: rest

/-- A text with its marks in order. -/
def inOrder (s : List Nat) : List Nat := (s.foldl (fun text n => setMark n text) []).reverse

/-! ## Together -/

/-- A text that is being put together: what is finished, the last character that others may join, and the marks behind
it that did not join. Finished text and marks are given last code point first. -/
structure Assembly where
  finished : List Nat
  base : Option Nat
  loose : List Nat

namespace Assembly

/-- All code points, last one first. -/
def all (a : Assembly) : List Nat := a.loose ++ a.base.toList ++ a.finished

/-- The composite that a code point makes with the base, unless a mark between them keeps them apart. -/
def joined? (a : Assembly) (n : Nat) : Option Nat := do
  let base ← a.base
  let free := match a.loose with
    | [] => true
    | m :: _ => decide (combiningClass m < combiningClass n)
  if free then join? base n else none

/-- Takes the next code point. -/
def push (a : Assembly) (n : Nat) : Assembly :=
  match a.joined? n with
  | some composite => { a with base := some composite }
  | none =>
    if combiningClass n = 0 then ⟨a.all, some n, []⟩
    else { a with loose := n :: a.loose }

end Assembly

/-- A text put together as far as possible. -/
def together (s : List Nat) : List Nat := (s.foldl Assembly.push ⟨[], none, []⟩).all.reverse

/-- A text in its composed form. -/
def compose (s : List Nat) : List Nat := together (inOrder (s.flatMap (apart 8)))

/-- Whether a text is in its composed form. -/
def isComposed (s : List Nat) : Bool := compose s == s

end DialogueScript.Unicode
