import DialogueScript.Protocol.Message
import DialogueScript.Script
import DialogueScript.Server.Documents
import DialogueScript.Settings.Client
import DialogueScript.Startup
import DialogueScript.Watcher

/-!
# The language server

The server keeps the open documents, the settings layers, the root of the workspace and a watcher. `Server.perform`
says what a call does to it and which messages it sends; whatever changes a document publishes that document, and
whatever changes the settings publishes all of them. `Server.receive` adds the rules of the phases: a client must
introduce itself before anything else, and after a shutdown nothing is served.
-/

namespace DialogueScript

/-- The life of a server. -/
inductive Phase where
  | uninitialized
  | active
  | shutDown
  | exited
  deriving DecidableEq, Repr

/-- How important a log message is. -/
inductive LogLevel where
  | warning
  | info
  deriving DecidableEq, Repr

/-- What the server sends to the client unasked. -/
inductive Outgoing where
  | log (level : LogLevel) (text : String)
  /-- The diagnostics of a document, with the version they are for. -/
  | publish (uri : Uri) (version : Option Int) (diagnostics : List Diagnostic)
  deriving DecidableEq, Repr

/-- The answer to a message. -/
inductive Reply where
  /-- No answer. -/
  | silence
  | result (id : MessageId) (value : Json)
  | refusal (id : MessageId) (fault : Fault)
  /-- The server has exited before. -/
  | gone

/-- A language server. -/
structure Server where
  startup : Startup
  phase : Phase
  documents : Documents
  layers : Layers
  root : Option Path
  watcher : Option Watcher

namespace Server

/-- A server that starts on a disk, before it knows a workspace. -/
def start (startup : Startup) (d : Disk) : Server :=
  { startup := startup
    phase := .uninitialized
    documents := []
    layers := startup.load d none
    root := none
    watcher := none }

/-! ## Publishing -/

/-- The publication of a document under the current cap. -/
def publication (s : Server) (uri : Uri) (document : Document) : Outgoing :=
  .publish uri (some document.version) (validate document.content s.layers.cap)

/-- The publication of a URI, if a document is open there. -/
def publish (s : Server) (uri : Uri) : List Outgoing := ((s.documents.get? uri).map (s.publication uri)).toList

/-- The publications of all open documents. -/
def publishAll (s : Server) : List Outgoing := s.documents.map fun (uri, document) => s.publication uri document

/-- What reaches the client in a phase: logs until the exit, publications from the handshake until the exit. -/
def delivers : Phase → Outgoing → Bool
  | .exited, _ => false
  | .uninitialized, .publish _ _ _ => false
  | _, _ => true

/-! ## Settings -/

/-- Reads the file layers anew and publishes all documents. -/
def reload (d : Disk) (s : Server) : Server × List Outgoing :=
  let s := { s with layers := s.layers.reload (s.startup.load d s.root) }
  (s, .log .info ("Settings reloaded (maxNumberOfProblems = " ++ toString s.layers.cap ++ ")") :: s.publishAll)

/-- Takes the settings of the client and publishes all documents. Settings that cannot be read clear the layer of the
client. -/
def configure (s : Server) (settings : Json) : Server × List Outgoing :=
  let complaint := match ClientSettings.ofJson settings with
    | .ok _ => []
    | .error e => [.log .warning e.message]
  let s := { s with layers := s.layers.withClient settings }
  (s, complaint ++ s.publishAll)

/-- Whether a URI names a settings file of a workspace. -/
def namesSettings (uri : Uri) : Bool :=
  (uri.filePath?.bind Path.fileName?) == some (Name.ofText workspaceFileName)

/-! ## Calls -/

/-- What a call does: the server after it and the messages sent meanwhile. -/
def perform (d : Disk) (s : Server) : Call → Server × List Outgoing
  | .handshake root =>
    ({ s with layers := s.layers.reload (s.startup.load d root), root := root, phase := .active }, [])
  | .ready =>
    ({ s with watcher := some (.start d (s.startup.watchedFiles s.root)) }, [.log .info "tdls initialized"])
  | .shutDown => ({ s with watcher := none }, [])
  | .opened uri document | .changed uri (some document) =>
    let s := { s with documents := s.documents.insert uri document }
    (s, s.publish uri)
  | .closed uri =>
    ({ s with documents := s.documents.erase uri },
      [.log .info (uri.render ++ " closed."), .publish uri none []])
  | .configured settings => s.configure settings
  | .filesChanged uris =>
    let note := Outgoing.log .info "We received a file change event"
    if uris.any namesSettings then
      let (s, out) := s.reload d
      (s, note :: out)
    else (s, [note])
  | .complete | .resolveItem _ | .unoffered | .changed _ none | .ignored => (s, [])

/-- What the server can do, as it tells a client. -/
def introduction : Json :=
  .object [("capabilities", .object [("textDocumentSync", .nat 1),
      ("completionProvider", .object [("resolveProvider", .bool true)])]),
    ("serverInfo", .object [("name", .string Program.server.name), ("version", .string version)])]

/-- The value that answers a request, or the fault. -/
def answer : Call → Except Fault Json
  | .handshake _ => .ok introduction
  | .complete => .ok (.array [])
  | .resolveItem item => .ok item
  | .unoffered => .error .methodNotFound
  | _ => .ok .null

/-- The reply to a message with or without an id. -/
def reply : Option MessageId → Except Fault Json → Reply
  | none, _ => .silence
  | some id, .ok value => .result id value
  | some id, .error fault => .refusal id fault

/-! ## Messages -/

/-- Serves a message of a method that may be served now. A request without an id is passed over, and a notification
with one is no valid request. -/
def serve (d : Disk) (s : Server) (method : Method) (m : Message) : Server × List Outgoing × Reply :=
  match method.role, m.id with
  | .request, none => (s, [], .silence)
  | .notification, some id => (s, [], .refusal id .invalidRequest)
  | _, _ =>
    match method.read? m.params with
    | none => (s, [], reply m.id (.error .invalidParams))
    | some call =>
      let (s, out) := s.perform d call
      (s, out, reply m.id (answer call))

/-- The fault of a request that comes too early or too late. -/
def untimely : Phase → Fault
  | .uninitialized => .notInitialized
  | _ => .invalidRequest

/-- Handles a message of a known method by the rules of the phases. A request can be called off in any phase. A shutdown
ends the active phase before it is looked at. -/
def dispatch (d : Disk) (s : Server) (method : Method) (m : Message) : Server × List Outgoing × Reply :=
  if method.name == "$/cancelRequest" then serve d s method m
  else if method.name == "initialize" then
    if s.phase = .uninitialized then serve d s method m else (s, [], reply m.id (.error .invalidRequest))
  else if s.phase != .active then (s, [], reply m.id (.error (untimely s.phase)))
  else if method.name == "shutdown" then serve d { s with phase := .shutDown } method m
  else serve d s method m

/-- Handles a message: the server after it, what it sends unasked, and the reply. Methods whose names start with a
dollar sign and a slash may be passed over. -/
def receive (d : Disk) (s : Server) (m : Message) : Server × List Outgoing × Reply :=
  if s.phase = .exited then (s, [], .gone)
  else if m.method == "exit" then ({ s with phase := .exited }, [], .silence)
  else
    match Method.named? m.method with
    | some method => dispatch d s method m
    | none =>
      if m.method.startsWith "$/" then (s, [], .silence) else (s, [], reply m.id (.error .methodNotFound))

/-- Takes notice of changed settings files, one after the other. -/
def noticeAll (d : Disk) : Server → List Path → Server × List Outgoing
  | s, [] => (s, [])
  | s, p :: rest =>
    let (s, out) := s.reload d
    let (s, more) := noticeAll d s rest
    (s, .log .info ("Config file changed: " ++ p.text) :: out ++ more)

end Server

end DialogueScript
