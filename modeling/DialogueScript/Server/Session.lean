import DialogueScript.Server.State

/-!
# Sessions

A session is a server and the disk it reads. Three things happen in it: the client sends a message, the diagnostics of a
document are asked for directly, or something changes on the disk. A change is reported by the watcher that runs at that
moment. `Session.run` is a whole course of events.
-/

namespace DialogueScript

/-- A server and its disk. -/
structure Session where
  server : Server
  disk : Disk

/-- What happens in a session. -/
inductive Event where
  | message (m : Message)
  | publish (uri : Uri)
  | change (c : Disk.Change)

/-- What a step of a session shows: the messages that reach the client and the reply. -/
structure Shown where
  out : List Outgoing
  reply : Reply

namespace Session

/-- A session at its start. -/
def start (startup : Startup) (d : Disk) : Session := ⟨Server.start startup d, d⟩

/-- What the server undertakes at an event, whether or not its messages reach the client. -/
def react (s : Session) : Event → Session × List Outgoing × Reply
  | .message m =>
    let (server, out, reply) := s.server.receive s.disk m
    (⟨server, s.disk⟩, out, reply)
  | .publish uri => (s, s.server.publish uri, .silence)
  | .change c =>
    let disk := s.disk.apply c
    match s.server.watcher with
    | none => (⟨s.server, disk⟩, [], .silence)
    | some w =>
      let server := { s.server with watcher := some (w.after c) }
      let (server, out) := server.noticeAll disk (w.reports s.disk c)
      (⟨server, disk⟩, out, .silence)

/-- One step: messages reach the client by the phase in which they are sent. -/
def step (s : Session) (e : Event) : Session × Shown :=
  let (next, out, reply) := s.react e
  (next, ⟨out.filter (Server.delivers next.server.phase), reply⟩)

/-- A course of events. -/
def run : Session → List Event → Session × List Shown
  | s, [] => (s, [])
  | s, e :: rest =>
    let (s, shown) := s.step e
    let (s, more) := run s rest
    (s, shown :: more)

end Session

end DialogueScript
