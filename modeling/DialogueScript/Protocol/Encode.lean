import DialogueScript.Server.State

/-!
# Writing messages

The JSON forms of what the server sends: publications, logs and replies.
-/

namespace DialogueScript

/-- A position in JSON. -/
def Position.toJson (p : Position) : Json :=
  .object [("line", .nat p.line.toNat), ("character", .nat p.character.toNat)]

/-- A range in JSON. -/
def Range.toJson (r : Range) : Json := .object [("start", r.start.toJson), ("end", r.stop.toJson)]

/-- A diagnostic in JSON. -/
def Diagnostic.toJson (d : Diagnostic) : Json :=
  .object [("range", d.range.toJson), ("severity", .nat d.severity.code), ("source", .string source),
    ("message", .string d.message)]

/-- The number of a log level. -/
def LogLevel.code : LogLevel → Nat
  | .warning => 2
  | .info => 3

/-- The method of a message that the server sends. -/
def Outgoing.method : Outgoing → String
  | .log _ _ => "window/logMessage"
  | .publish _ _ _ => "textDocument/publishDiagnostics"

/-- The parameters of a message that the server sends. -/
def Outgoing.params : Outgoing → Json
  | .log level text => .object [("type", .nat level.code), ("message", .string text)]
  | .publish uri version ds =>
    let known := [("uri", .string uri.render), ("diagnostics", .array (ds.map Diagnostic.toJson))]
    match version with
    | some n => .object (known ++ [("version", .integer n)])
    | none => .object known

/-- A message that the server sends, in its envelope. -/
def Outgoing.toJson (m : Outgoing) : Json :=
  .object [("jsonrpc", .string "2.0"), ("method", .string m.method), ("params", m.params)]

/-- A refusal in its envelope. -/
def Fault.toJson (f : Fault) (id : MessageId) : Json :=
  .object [("jsonrpc", .string "2.0"), ("error", .object [("code", .integer f.code)]), ("id", id.toJson)]

/-- A reply in its envelope, if there is one. -/
def Reply.toJson? : Reply → Option Json
  | .result id value => some (.object [("jsonrpc", .string "2.0"), ("result", value), ("id", id.toJson)])
  | .refusal id fault => some (fault.toJson id)
  | .silence | .gone => none

end DialogueScript
