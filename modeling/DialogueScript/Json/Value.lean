import DialogueScript.Number.Binary64

/-!
# JSON values

Numbers without fraction and exponent that fit 64 bits are integers, all others are binary64. An object keeps its
members in the order they were written; where a name occurs twice the later member counts.
-/

namespace DialogueScript

/-- A JSON value. -/
inductive Json where
  | null
  | bool (b : Bool)
  /-- An integer from `-2 ^ 63` to `2 ^ 64 - 1`. -/
  | integer (n : Int)
  | real (x : Binary64)
  | string (s : String)
  | array (items : List Json)
  | object (members : List (String × Json))
  deriving Repr, Inhabited

namespace Json

/-- The member that counts for a name. -/
def lookup? (name : String) (members : List (String × Json)) : Option Json :=
  (members.reverse.find? fun m => m.1 == name).map Prod.snd

/-- The value of a member of an object. -/
def get? (name : String) : Json → Option Json
  | .object members => lookup? name members
  | _ => none

/-- A natural number as an integer. -/
def nat (n : Nat) : Json := .integer (Int.ofNat n)

/-- A value, or null for a missing one. -/
def ofOption {α : Type} (encode : α → Json) : Option α → Json
  | none => .null
  | some a => encode a

/-- A string made of characters. -/
def text (s : List Char) : Json := .string (String.ofList s)

end Json

end DialogueScript
