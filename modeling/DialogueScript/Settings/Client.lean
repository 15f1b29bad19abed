import DialogueScript.Json.Value
import DialogueScript.Number.Shortest
import DialogueScript.Settings.Layers
import DialogueScript.Text.Quoted

/-!
# Client settings

A client sends its settings as a JSON value. They hold a section under one of two names, and the section holds the cap.
Both records may also be given as arrays, by position. `ClientSettings.ofJson` reads them or names the cause of the
failure, and `ClientError.message` words it.
-/

namespace DialogueScript

/-- The section of the client settings that is for this server. -/
structure ClientSection where
  /-- The cap as sent: a 64-bit integer of any sign. -/
  maxNumberOfProblems : Option Int
  deriving DecidableEq, Repr

/-- The settings of a client. -/
structure ClientSettings where
  tdls : Option ClientSection
  deriving DecidableEq, Repr

/-- What stood where something else was wanted. -/
inductive Found where
  | null
  | boolean (b : Bool)
  | integer (n : Int)
  | real (x : Binary64)
  | string (s : String)
  | sequence
  | map
  deriving DecidableEq, Repr

/-- What was wanted. -/
inductive Wanted where
  | settings
  | sectionRecord
  | integer
  deriving DecidableEq, Repr

/-- Why client settings cannot be read. -/
inductive ClientError where
  /-- A value of another type. -/
  | wrongType (found : Found) (wanted : Wanted)
  /-- An integer beyond 64 bits with sign. -/
  | outOfRange (n : Int)
  /-- The section is there under both of its names. -/
  | duplicateSection
  /-- A section given as an array without elements. -/
  | emptySection
  /-- An array with more elements than the record has fields. -/
  | tooLong (length : Nat)
  deriving DecidableEq, Repr

/-- What a value is. -/
def Found.ofJson : Json → Found
  | .null => .null
  | .bool b => .boolean b
  | .integer n => .integer n
  | .real x => .real x
  | .string s => .string s
  | .array _ => .sequence
  | .object _ => .map

/-- What was found, in words. -/
def Found.message : Found → String
  | .null => "null"
  | .boolean b => "boolean `" ++ (if b then "true" else "false") ++ "`"
  | .integer n => "integer `" ++ toString n ++ "`"
  | .real x => "floating point `" ++ x.text ++ "`"
  | .string s => "string " ++ quote s
  | .sequence => "sequence"
  | .map => "map"

/-- What was wanted, in words. -/
def Wanted.message : Wanted → String
  | .settings => "struct ClientSettings"
  | .sectionRecord => "struct ClientSection"
  | .integer => "i64"

/-- The cause of a failure, in words. -/
def ClientError.cause : ClientError → String
  | .wrongType found wanted => "invalid type: " ++ found.message ++ ", expected " ++ wanted.message
  | .outOfRange n => "invalid value: " ++ (Found.integer n).message ++ ", expected " ++ Wanted.integer.message
  | .duplicateSection => "duplicate field `tdls`"
  | .emptySection => "invalid length 0, expected struct ClientSection with 1 element"
  | .tooLong length => "invalid length " ++ toString length ++ ", expected fewer elements in array"

/-- The message for settings that cannot be read. -/
def ClientError.message (e : ClientError) : String := "Invalid client settings: " ++ e.cause

/-- The cap of a section: null stands for none. -/
def readCap : Json → Except ClientError (Option Int)
  | .null => .ok none
  | .integer n => if -Int.pow 2 63 ≤ n && n < Int.pow 2 63 then .ok (some n) else .error (.outOfRange n)
  | v => .error (.wrongType (.ofJson v) .integer)

/-- A section: null stands for none. The elements of an array are read before its length is judged. -/
def readSection : Json → Except ClientError (Option ClientSection)
  | .null => .ok none
  | .object members => do
    let cap ← readCap ((Json.lookup? "maxNumberOfProblems" members).getD .null)
    pure (some ⟨cap⟩)
  | .array [] => .error .emptySection
  | .array (v :: rest) => do
    let cap ← readCap v
    if rest.isEmpty then pure (some ⟨cap⟩) else throw (.tooLong (rest.length + 1))
  | v => .error (.wrongType (.ofJson v) .sectionRecord)

namespace ClientSettings

/-- The settings in a JSON value. Of the two names of the section the one that sorts first is read first. -/
def ofJson : Json → Except ClientError ClientSettings
  | .null => .ok ⟨none⟩
  | .object members =>
    match Json.lookup? "languageServerExample" members, Json.lookup? "tdls" members with
    | none, none => .ok ⟨none⟩
    | some v, none | none, some v => do
      let part ← readSection v
      pure ⟨part⟩
    | some v, some _ => do
      let _ ← readSection v
      throw .duplicateSection
  | .array [] => .ok ⟨none⟩
  | .array (v :: rest) => do
    let part ← readSection v
    if rest.isEmpty then pure ⟨part⟩ else throw (.tooLong (rest.length + 1))
  | v => .error (.wrongType (.ofJson v) .settings)

/-- The cap that the client asks for, if it is positive. -/
def cap? (s : ClientSettings) : Option Nat :=
  match s.tdls with
  | some ⟨some n⟩ => if 0 < n then some n.toNat else none
  | _ => none

end ClientSettings

/-- The client layer that a JSON value sets; a value that cannot be read sets none. -/
def Layers.clientCap (value : Json) : Option Nat :=
  match ClientSettings.ofJson value with
  | .ok settings => settings.cap?
  | .error _ => none

/-- The layers after the client sent its settings. -/
def Layers.withClient (l : Layers) (value : Json) : Layers := { l with client := clientCap value }

end DialogueScript
