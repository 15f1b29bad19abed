import DialogueScript.Json.Value
import DialogueScript.Uri.Reader

/-!
# Shapes of parameters

The editor protocol says which shape the parameters of each method have. `Shape.read?` holds a JSON value against a
shape and gives it back in one form: members that the shape does not know are left out, missing optional members too,
URIs stay as written, and a record given as an array, by position, becomes an object.
-/

namespace DialogueScript

/-- Whether a member of a record must be there. -/
inductive Presence where
  /-- It must be there. -/
  | required
  /-- It may be missing or null. In an array its place must be filled. -/
  | optional
  /-- It may be missing or null, in an array too. -/
  | lenient
  /-- It may be missing, in an array too, but not null. -/
  | defaulted
  deriving DecidableEq, Repr

/-- The shape of a JSON value. -/
inductive Shape where
  /-- Any value. -/
  | any
  | bool
  | string
  /-- An integer between two bounds, both included. -/
  | integer (low high : Int)
  /-- Any number. -/
  | number
  /-- The text of a URI. -/
  | uri
  /-- One of some words, which may also be given as the name of a single member that is null. -/
  | word (words : List String)
  /-- One word of a series, which may also be given by its place there. -/
  | tag (place : Nat) (name : String)
  | list (item : Shape)
  /-- An array of two values of one shape. -/
  | pair (item : Shape)
  /-- An object whose names all have one shape and whose values all have another. -/
  | dictionary (name item : Shape)
  /-- A record with named fields; `byPosition` says whether it may be given as an array. -/
  | record (byPosition : Bool) (fields : List (String × Presence × Shape))
  /-- A record with named fields whose other members all have one shape. -/
  | extensible (fields : List (String × Presence × Shape)) (others : Shape)
  /-- The first of some shapes that fits. -/
  | either (shapes : List Shape)

namespace Shape

/-- A required field. -/
def need (name : String) (s : Shape) : String × Presence × Shape := (name, .required, s)

/-- An optional field. -/
def may (name : String) (s : Shape) : String × Presence × Shape := (name, .optional, s)

/-- The name of the only member of an object, if that is null. -/
def soleName? (members : List (String × Json)) : Option String :=
  match members.getLast? with
  | some (name, .null) => if members.all fun m => m.1 == name then some name else none
  | _ => none

/-- The members of an object that count and have none of some names. -/
def othersOf (names : List String) (members : List (String × Json)) : List (String × Json) :=
  (members.filter fun m => !names.contains m.1).filterMap fun m => (Json.lookup? m.1 members).map fun v => (m.1, v)

/-- What a field reads from its value: nothing at all, or perhaps a member. -/
def member? (name : String) (presence : Presence) (read : Json → Option Json) :
    Option Json → Option (List (String × Json))
  | none => if presence = .required then none else some []
  | some .null =>
    if presence = .optional || presence = .lenient then some [] else (read .null).map fun v => [(name, v)]
  | some v => (read v).map fun v => [(name, v)]

/-- The members of an object, names and values each read in one way. -/
def readMembers? (readName readItem : Json → Option Json) (members : List (String × Json)) :
    Option (List (String × Json)) :=
  members.mapM fun m => do
    match ← readName (.string m.1) with
    | .string name => some (name, ← readItem m.2)
    | _ => none

mutual

/-- A value in the form of a shape, if it fits. -/
def read? : Shape → Json → Option Json
  | .any, v => some v
  | .bool, .bool b => some (.bool b)
  | .string, .string s => some (.string s)
  | .integer low high, .integer n => if low ≤ n && n ≤ high then some (.integer n) else none
  | .number, .integer n => some (.integer n)
  | .number, .real x => some (.real x)
  | .uri, .string s => if (Uri.parse? s.toList).isSome then some (.string s) else none
  | .word words, .string s => if words.contains s then some (.string s) else none
  | .word words, .object members => ((soleName? members).filter words.contains).map .string
  | .tag _ name, .string s => if s = name then some (.string name) else none
  | .tag place name, .integer n => if n = place then some (.string name) else none
  | .list item, .array vs => (vs.mapM (read? item)).map .array
  | .pair item, .array vs => if vs.length = 2 then (vs.mapM (read? item)).map .array else none
  | .dictionary name item, .object members => (readMembers? (read? name) (read? item) members).map .object
  | .record _ fields, .object members => (readNamed? fields members).map .object
  | .record byPosition fields, .array vs =>
    if byPosition then (readPlaced? fields vs).map .object else none
  | .extensible fields others, .object members => do
    let known ← readNamed? fields members
    let more ← readMembers? some (read? others) (othersOf (fields.map Prod.fst) members)
    some (.object (known ++ more))
  | .either shapes, v => readFirst? shapes v
  | _, _ => none

/-- The fields of a record from the members of an object. -/
def readNamed? : List (String × Presence × Shape) → List (String × Json) → Option (List (String × Json))
  | [], _ => some []
  | (name, presence, shape) :: fields, members => do
    let first ← member? name presence (read? shape) (Json.lookup? name members)
    let rest ← readNamed? fields members
    some (first ++ rest)

/-- The fields of a record from the items of an array. -/
def readPlaced? : List (String × Presence × Shape) → List Json → Option (List (String × Json))
  | [], [] => some []
  | [], _ :: _ => none
  | (_, presence, _) :: fields, [] =>
    if presence = .lenient || presence = .defaulted then readPlaced? fields [] else none
  | (name, presence, shape) :: fields, v :: vs => do
    let first ← member? name presence (read? shape) (some v)
    let rest ← readPlaced? fields vs
    some (first ++ rest)

/-- The first shape that fits. -/
def readFirst? : List Shape → Json → Option Json
  | [], _ => none
  | shape :: shapes, v =>
    match read? shape v with
    | some v => some v
    | none => readFirst? shapes v

end

/-! ## Common shapes -/

/-- An integer of 32 bits with sign. -/
def int32 : Shape := .integer (-(Int.pow 2 31)) (Int.pow 2 31 - 1)

/-- An integer of 32 bits without sign. -/
def uint32 : Shape := .integer 0 (Int.pow 2 32 - 1)

/-- A record that may be given by position. -/
def fields (all : List (String × Presence × Shape)) : Shape := .record true all

/-- A record made by joining the fields of others, which needs its names. -/
def merged (parts : List (List (String × Presence × Shape))) : Shape := .record false parts.flatten

end Shape

end DialogueScript
