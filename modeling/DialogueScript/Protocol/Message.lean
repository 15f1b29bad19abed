import DialogueScript.Json.Value

/-!
# Messages

The envelope of the protocol: a message has a method, perhaps parameters, and an id when it wants an answer. A client
also sends answers, which this server has no use for. `Incoming.ofJson?` tells what a JSON value is; an envelope with a
member given twice is none.
-/

namespace DialogueScript

/-- The id of a request. -/
inductive MessageId where
  | number (n : Int)
  | text (s : String)
  | null
  deriving DecidableEq, Repr

/-- A request or notification. -/
structure Message where
  method : String
  params : Option Json
  /-- Present when an answer is wanted. -/
  id : Option MessageId

/-- Why a request is refused. -/
inductive Fault where
  /-- The client has not introduced itself. -/
  | notInitialized
  /-- The request cannot be taken at this time, or is no request. -/
  | invalidRequest
  | methodNotFound
  | invalidParams
  /-- The text is no JSON. -/
  | parseError
  deriving DecidableEq, Repr

/-- The number of a fault. -/
def Fault.code : Fault → Int
  | .notInitialized => -32002
  | .invalidRequest => -32600
  | .methodNotFound => -32601
  | .invalidParams => -32602
  | .parseError => -32700

/-- What arrives from a client. -/
inductive Incoming where
  | message (m : Message)
  /-- An answer to a request of the server. -/
  | answer

/-- An id: an integer of 64 bits with sign, a text or null. -/
def MessageId.ofJson? : Json → Option MessageId
  | .integer n => if n < Int.pow 2 63 then some (.number n) else none
  | .string s => some (.text s)
  | .null => some .null
  | _ => none

/-- An id in JSON. -/
def MessageId.toJson : MessageId → Json
  | .number n => .integer n
  | .text s => .string s
  | .null => .null

namespace Incoming

/-- Whether a value names the version of the envelope. -/
def isVersion : Json → Bool
  | .string "2.0" => true
  | _ => false

/-- Whether no name of a list occurs twice among members. -/
def eachOnce (names : List String) (members : List (String × Json)) : Bool :=
  names.all fun name => (members.filter fun m => m.1 == name).length ≤ 1

/-- The value of a member that occurs exactly once. -/
def sole? (name : String) (members : List (String × Json)) : Option Json :=
  match members.filter fun m => m.1 == name with
  | [(_, v)] => some v
  | _ => none

/-- Whether a value is the number of a failure. -/
def isFailureCode : Json → Bool
  | .integer n => n < Int.pow 2 63
  | _ => false

/-- Whether a value is a text. -/
def isText : Json → Bool
  | .string _ => true
  | _ => false

/-- Whether a value describes a failure: a code, a message and perhaps data, and nothing else. Given by position, all
three must be there. -/
def isFailure : Json → Bool
  | .object members =>
    let names := ["code", "message", "data"]
    eachOnce names members && members.all (fun m => names.contains m.1) &&
      ((sole? "code" members).map isFailureCode).getD false && ((sole? "message" members).map isText).getD false
  | .array [number, text, _] => isFailureCode number && isText text
  | _ => false

/-- Whether an object is an answer: it has an id, and a result or a failure. -/
def isAnswer (members : List (String × Json)) : Bool :=
  ((sole? "jsonrpc" members).map isVersion).getD false &&
    ((sole? "id" members).bind MessageId.ofJson?).isSome &&
      ((sole? "result" members).isSome || ((sole? "error" members).map isFailure).getD false)

/-- The method of a message: a missing one is empty. -/
def method? : Option Json → Option String
  | none => some ""
  | some (.string s) => some s
  | some _ => none

/-- The id of a message, which may be missing. -/
def id? : Option Json → Option (Option MessageId)
  | none => some none
  | some v => (MessageId.ofJson? v).map some

/-- A message of its parts. -/
def message? (version method params id : Option Json) : Option Incoming := do
  if !(version.map isVersion).getD false then none
  some (.message ⟨← method? method, params, ← id? id⟩)

/-- What a JSON value is as a message. The parts may also be given as an array, by position. -/
def ofJson? : Json → Option Incoming
  | .object members =>
    if isAnswer members then some .answer
    else if !eachOnce ["jsonrpc", "method", "params", "id"] members then none
    else
      let part (name : String) : Option Json := Json.lookup? name members
      message? (part "jsonrpc") (part "method") (part "params") (part "id")
  | .array items => if 4 < items.length then none else message? items[0]? items[1]? items[2]? items[3]?
  | _ => none

end Incoming

end DialogueScript
