import DialogueScript.Protocol.Capabilities
import DialogueScript.Protocol.Params
import DialogueScript.Text.Cut

/-!
# Calls

A call is what a message with well-formed parameters asks of the server. `methods` lists the methods that the server
knows, whether they want an answer, and how their parameters are read.
-/

namespace DialogueScript

/-- A document as the client sees it. -/
structure Document where
  content : List Char
  version : Int
  deriving DecidableEq, Repr

/-- What a message asks of the server. -/
inductive Call where
  /-- The client introduces itself and names the root of its workspace. -/
  | handshake (root : Option Path)
  /-- The client is ready for messages. -/
  | ready
  /-- The server shall stop working. -/
  | shutDown
  /-- Completions are wanted. -/
  | complete
  /-- More about a completion is wanted. -/
  | resolveItem (item : Json)
  /-- Something is wanted that the server does not offer. -/
  | unoffered
  /-- A document was opened. -/
  | opened (uri : Uri) (document : Document)
  /-- A document has a new content; nothing is said when the list of changes is empty. -/
  | changed (uri : Uri) (document : Option Document)
  /-- A document was closed. -/
  | closed (uri : Uri)
  /-- The client sends its settings. -/
  | configured (settings : Json)
  /-- Files have changed on disk. -/
  | filesChanged (uris : List Uri)
  /-- Something is told that does not matter to the server. -/
  | ignored

/-- Whether a method wants an answer. -/
inductive Role where
  | request
  | notification
  deriving DecidableEq, Repr

/-- A method that the server knows. -/
structure Method where
  name : String
  role : Role
  /-- What a message with these parameters asks for, if they are well-formed. -/
  read? : Option Json → Option Call

namespace Call

/-- The text of a member. -/
def textAt? (name : String) (v : Json) : Option (List Char) :=
  match v.get? name with
  | some (.string s) => some s.toList
  | _ => none

/-- The URI of a member. -/
def uriAt? (name : String) (v : Json) : Option Uri := (textAt? name v).bind Uri.parse?

/-- The items of a member. -/
def itemsAt (name : String) (v : Json) : List Json :=
  match v.get? name with
  | some (.array items) => items
  | _ => []

/-- The version of a member. -/
def versionAt? (v : Json) : Option Int :=
  match v.get? "version" with
  | some (.integer n) => some n
  | _ => none

/-- The root of the workspace: the first folder if there are any, else the root that older clients name. -/
def rootOf (v : Json) : Option Path :=
  match itemsAt "workspaceFolders" v with
  | folder :: _ => (uriAt? "uri" folder).bind Uri.filePath?
  | [] => (uriAt? "rootUri" v).bind Uri.filePath?

/-- An opened document. -/
def openedOf? (v : Json) : Option Call := do
  let item ← v.get? "textDocument"
  let uri ← uriAt? "uri" item
  some (.opened uri ⟨← textAt? "text" item, ← versionAt? item⟩)

/-- A changed document: each change carries the whole text, so the last one counts. -/
def changedOf? (v : Json) : Option Call := do
  let item ← v.get? "textDocument"
  let uri ← uriAt? "uri" item
  let version ← versionAt? item
  match (itemsAt "contentChanges" v).getLast? with
  | none => some (.changed uri none)
  | some change => some (.changed uri (some ⟨← textAt? "text" change, version⟩))

/-- A closed document. -/
def closedOf? (v : Json) : Option Call := do
  let item ← v.get? "textDocument"
  some (.closed (← uriAt? "uri" item))

/-- Reads parameters that must have a shape. -/
def shaped (shape : Shape) (call? : Json → Option Call) (params : Option Json) : Option Call := do
  let v ← shape.read? (← params)
  call? v

/-- Reads parameters that must not be there. -/
def bare (call : Call) : Option Json → Option Call
  | none => some call
  | some _ => none

end Call

open Call in
/-- The methods that the server answers or acts on. -/
def offeredMethods : List Method :=
  [⟨"initialize", .request, shaped Params.handshake fun v => some (.handshake (rootOf v))⟩,
    ⟨"initialized", .notification, shaped Params.empty fun _ => some .ready⟩,
    ⟨"shutdown", .request, bare .shutDown⟩,
    ⟨"textDocument/completion", .request, shaped Params.completion fun _ => some .complete⟩,
    ⟨"completionItem/resolve", .request, shaped Params.completionItem fun v => some (.resolveItem v)⟩,
    ⟨"textDocument/didOpen", .notification, shaped Params.didOpen openedOf?⟩,
    ⟨"textDocument/didChange", .notification, shaped Params.didChange changedOf?⟩,
    ⟨"textDocument/didClose", .notification, shaped Params.didClose closedOf?⟩,
    ⟨"workspace/didChangeConfiguration", .notification,
      shaped Params.didChangeConfiguration fun v => (v.get? "settings").map .configured⟩,
    ⟨"workspace/didChangeWatchedFiles", .notification,
      shaped Params.didChangeWatchedFiles fun v =>
        some (.filesChanged ((itemsAt "changes" v).filterMap (uriAt? "uri")))⟩]

/-- The notifications that the server knows and takes no notice of. -/
def ignoredMethods : List Method :=
  ["$/cancelRequest", "textDocument/willSave", "textDocument/didSave", "workspace/didChangeWorkspaceFolders",
    "workspace/didCreateFiles", "workspace/didRenameFiles", "workspace/didDeleteFiles"].map
    fun name => ⟨name, .notification, fun _ => some .ignored⟩

/-- All methods that the server knows. -/
def methods : List Method :=
  offeredMethods ++ ignoredMethods ++
    Params.unoffered.map fun (name, shape) => ⟨name, .request, Call.shaped shape fun _ => some .unoffered⟩

/-- The method of a name. -/
def Method.named? (name : String) : Option Method := methods.find? fun m => m.name == name

end DialogueScript
