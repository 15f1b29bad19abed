import DialogueScript.CommandLine.Outcome
import DialogueScript.CommandLine.Reader
import DialogueScript.Json.Reader
import DialogueScript.Protocol.Encode
import DialogueScript.Server.Session

/-!
# The server on a stream

Messages come in frames. The body of a frame is a JSON text with one message. A body that is none is refused, and the
server reads no further; it also stops at the first message after its exit.
-/

namespace DialogueScript

/-- A session on a stream, and whether it still reads. -/
structure Stream where
  session : Session
  reading : Bool

/-- What the body of a frame is. -/
inductive Body where
  /-- An empty body is passed over. -/
  | empty
  | incoming (m : Incoming)
  | bad (fault : Fault)

/-- Reads the body of a frame. The first value is judged before the text behind it. -/
def Body.ofText (text : List Char) : Body :=
  if text.isEmpty then .empty
  else
    match Json.read? text with
    | none => .bad .parseError
    | some (value, rest) =>
      match Incoming.ofJson? value with
      | none => .bad .invalidRequest
      | some m => if (Json.skipSpace rest).isEmpty then .incoming m else .bad .parseError

namespace Stream

/-- The frames that a shown step makes. -/
def frames (shown : Shown) : List Json := shown.out.map Outgoing.toJson ++ shown.reply.toJson?.toList

/-- Takes the body of a frame and gives the frames that answer it. -/
def take (s : Stream) (body : List Char) : Stream × List Json :=
  if !s.reading then (s, [])
  else
    match Body.ofText body with
    | .empty | .incoming .answer => (s, [])
    | .bad fault => ({ s with reading := false }, [fault.toJson .null])
    | .incoming (.message m) =>
      let (session, shown) := s.session.step (.message m)
      let reading := match shown.reply with
        | .gone => false
        | _ => true
      (⟨session, reading⟩, frames shown)

/-- Takes a change of the disk and gives the frames that tell the client about it. -/
def notice (s : Stream) (c : Disk.Change) : Stream × List Json :=
  let (session, shown) := s.session.step (.change c)
  ({ s with session := session }, frames shown)

/-- Takes bodies in order; gives the frames that answer each. -/
def takeAll : Stream → List (List Char) → Stream × List (List Json)
  | s, [] => (s, [])
  | s, body :: rest =>
    let (s, first) := s.take body
    let (s, more) := takeAll s rest
    (s, first :: more)

/-- How the server program begins: with a stream, or at its end. -/
def begin (d : Disk) (e : Environment) (args : List String) : Except Outcome Stream :=
  match CommandLine.read .server args with
  | .error stop => .error (stop.outcome .server)
  | .ok (options, _) =>
    match Startup.ofOptions d e options with
    | .error error => .error (.failed error.message)
    | .ok startup => .ok ⟨Session.start startup d, true⟩

end Stream

end DialogueScript
