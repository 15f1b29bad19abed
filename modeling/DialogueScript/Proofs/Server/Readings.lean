import DialogueScript.Proofs.Layers
import DialogueScript.Proofs.Server.Reload

/-!
# The last reading of the settings files

A server reads its settings files when it starts, at the handshake, when the client says that one of them has changed,
and when its watcher reports a change (`Session.rereads`); at other events it does not look at them. So the file layers
are always what the files said at the last reading (`holds_after`), whether or not they have changed since.

The watcher starts when the client is ready, and to be ready is no reading. A change between the last reading before it
and the start of the watcher is therefore missed (`settingsFileMade`).
-/

namespace DialogueScript

/-! ## Readings -/

/-- Whether a call makes the server read its settings files. -/
def Call.rereads : Call → Bool
  | .handshake _ => true
  | .filesChanged uris => uris.any Server.namesSettings
  | _ => false

/-- Whether the server reads its settings files at an event. -/
def Session.rereads (s : Session) (e : Event) : Bool := (s.served? e).any Call.rereads || !(s.reported e).isEmpty

/-- Whether the server never reads its settings files in a course of events. -/
def Session.readsNothing : Session → List Event → Bool
  | _, [] => true
  | s, e :: events => !s.rereads e && (s.step e).1.readsNothing events

theorem readsNothing_concat (e : Event) : ∀ (events : List Event) (s : Session),
    s.readsNothing (events ++ [e]) = (s.readsNothing events && !(s.after events).rereads e)
  | [], s => by simp [Session.readsNothing]
  | e' :: events, s => by
    simp only [List.cons_append, Session.readsNothing, readsNothing_concat e events, Session.after_cons, Bool.and_assoc]

/-! ## What a server holds -/

namespace Server

/-- The file layers of a server are what the settings files on a disk said. -/
structure Holds (s : Server) (startup : Startup) (d : Disk) : Prop where
  startup_eq : s.startup = startup
  files_eq : s.layers.files = (startup.load d s.root).files

variable {s : Server} {startup : Startup} {d d' : Disk}

theorem Holds.reload (h : s.startup = startup) (d : Disk) : (s.reload d).1.Holds startup d :=
  ⟨h, by rw [← h]; rfl⟩

/-- A call that does not read the files leaves their layers alone. -/
theorem Holds.perform (h : s.Holds startup d') (d : Disk) (call : Call) :
    (s.perform d call).1.Holds startup (if call.rereads then d else d') := by
  cases call with
  | handshake root => exact ⟨h.startup_eq, by rw [← h.startup_eq]; rfl⟩
  | ready | shutDown | complete | resolveItem | unoffered | opened | closed | configured | ignored =>
    exact ⟨h.startup_eq, h.files_eq⟩
  | changed uri document => cases document <;> exact ⟨h.startup_eq, h.files_eq⟩
  | filesChanged uris =>
    have hreads : (Call.filesChanged uris).rereads = uris.any namesSettings := rfl
    rw [hreads]
    simp only [Server.perform]
    split
    · exact Holds.reload h.startup_eq d
    · exact h

theorem Holds.handle (h : s.Holds startup d') (d : Disk) (m : Message) :
    (s.handle d m).1.Holds startup (if (s.phase.served? m).any Call.rereads then d else d') := by
  rw [handle_eq]
  have hentered : Holds { s with phase := s.phase.entered m } startup d' := ⟨h.startup_eq, h.files_eq⟩
  cases s.phase.served? m with
  | none => exact hentered
  | some call => exact hentered.perform d call

theorem Holds.noticeAll (h : s.Holds startup d') (d : Disk) (paths : List Path) :
    (s.noticeAll d paths).1.Holds startup (if paths.isEmpty then d' else d) := by
  induction paths generalizing s d' with
  | nil => exact h
  | cons p paths ih =>
    have hrest := ih (Holds.reload h.startup_eq d)
    rw [ite_self] at hrest
    exact hrest

end Server

namespace Session

variable {s : Session} {startup : Startup} {d : Disk}

/-- **A step reads the files or leaves their layers alone.** -/
theorem holds_step (h : s.server.Holds startup d) (e : Event) :
    (s.step e).1.server.Holds startup (if s.rereads e then (s.step e).1.disk else d) := by
  cases e with
  | message m =>
    have hreads : s.rereads (.message m) = (s.server.phase.served? m).any Call.rereads := Bool.or_false _
    rw [hreads]
    exact h.handle s.disk m
  | publish uri => exact h
  | change c =>
    have hreads : s.rereads (.change c) = !(s.reported (.change c)).isEmpty := Bool.false_or _
    have hwatch : Server.Holds { s.server with watcher := s.server.watcher.map (Watcher.after · c) } startup d :=
      ⟨h.startup_eq, h.files_eq⟩
    have hnotice := hwatch.noticeAll (s.disk.apply c) (s.reported (.change c))
    rw [step_change, hreads]
    cases hpaths : (s.reported (.change c)).isEmpty <;> rw [hpaths] at hnotice <;> exact hnotice

/-- **The file layers are those of the last reading.** A course of events can be cut at the last reading, or at its
start if there is none. -/
theorem holds_after (h : s.server.Holds startup s.disk) (events : List Event) :
    ∃ read rest, events = read ++ rest ∧
      (read = [] ∨ ∃ before e, read = before ++ [e] ∧ (s.after before).rereads e = true) ∧
      (s.after read).readsNothing rest = true ∧ (s.after events).server.Holds startup (s.after read).disk := by
  induction events using List.reverseRecOn with
  | nil => exact ⟨[], [], rfl, Or.inl rfl, rfl, h⟩
  | append_singleton events e ih =>
    obtain ⟨read, rest, rfl, hread, hrest, hholds⟩ := ih
    have hstep := holds_step hholds e
    have hlast : s.after (read ++ rest ++ [e]) = ((s.after (read ++ rest)).step e).1 :=
      after_append s (read ++ rest) [e]
    cases he : (s.after (read ++ rest)).rereads e with
    | true =>
      rw [he, if_pos rfl] at hstep
      refine ⟨read ++ rest ++ [e], [], (List.append_nil _).symm, Or.inr ⟨_, e, rfl, he⟩, rfl, ?_⟩
      rw [hlast]
      exact hstep
    | false =>
      rw [he, if_neg Bool.false_ne_true] at hstep
      refine ⟨read, rest ++ [e], List.append_assoc .., hread, ?_, by rw [hlast]; exact hstep⟩
      rw [after_append] at he
      rw [readsNothing_concat, hrest, he]
      rfl

theorem start_holds (startup : Startup) (d : Disk) : (start startup d).server.Holds startup d := ⟨rfl, rfl⟩

end Session

/-- **When the client is ready, the settings are those of the last reading before.** The files are not read at that
moment: the file layers are what the files said when they were last read, at the start, the handshake or a later reload.
They are up to date if the files have not changed since then. -/
theorem ready_keeps_last_reading (startup : Startup) (d : Disk) (events : List Event) {ready : Message}
    (hready : ready.call? = some .ready) :
    let start := Session.start startup d
    let s := start.after (events ++ [.message ready])
    ∃ read rest, events = read ++ rest ∧
      (read = [] ∨ ∃ before e, read = before ++ [e] ∧ (start.after before).rereads e = true) ∧
      (start.after read).readsNothing (rest ++ [.message ready]) = true ∧
      s.server.layers.files = (startup.load (start.after read).disk s.server.root).files ∧
      ((∀ f ∈ startup.watchedFiles s.server.root, s.disk.readText f = (start.after read).disk.readText f) →
        s.server.layers.files = (startup.load s.disk s.server.root).files) := by
  intro start s
  obtain ⟨read, rest, rfl, hread, hrest, hholds⟩ := Session.holds_after (Session.start_holds startup d) events
  have hquiet : (start.after (read ++ rest)).rereads (.message ready) = false := by
    have hserved : ((start.after (read ++ rest)).served? (.message ready)).any Call.rereads = false := by
      cases h : (start.after (read ++ rest)).served? (.message ready) with
      | none => rfl
      | some call =>
        cases (Phase.call?_of_served? h).symm.trans hready
        rfl
    rw [Session.rereads, hserved]
    rfl
  have hstep := Session.holds_step hholds (.message ready)
  rw [hquiet, if_neg Bool.false_ne_true] at hstep
  have hs : s = ((start.after (read ++ rest)).step (.message ready)).1 := Session.after_append _ _ _
  rw [← hs] at hstep
  refine ⟨read, rest, rfl, hread, ?_, hstep.files_eq, fun hsame => ?_⟩
  · rw [Session.after_append] at hquiet
    rw [readsNothing_concat, hrest, hquiet]
    rfl
  · rw [Startup.load_congr fun f hf => cap?_congr (hsame f hf)]
    exact hstep.files_eq

/-! ## A change that is missed -/

section Missed

/-- A session on a disk with an empty workspace and an empty directory for the user's settings. -/
def emptyWorkspace : Session :=
  .start ⟨none, none, some (.ofText "/xdg/tdls/config.toml"), "info"⟩
    ⟨[(placeOf ["ws"], .directory), (placeOf ["xdg"], .directory)], placeOf ["ws"]⟩

/-- A settings file for the workspace is made between the handshake and the moment when the client is ready. -/
def settingsFileMade : Event := .change (.put (placeOf ["ws", ".tdls.toml"]) (capFile "5"))

/-- **A change before the client is ready is missed.** The file sets a cap, and the server goes on without it. -/
theorem change_before_ready_is_missed :
    let s := emptyWorkspace.after [.message (.hello (some "file:///ws")), settingsFileMade, .message .ready]
    s.server.phase = .active ∧ s.server.root = some (.ofText "/ws") ∧
      (s.server.startup.load s.disk s.server.root).files = (none, some 5, none) ∧
      s.server.layers.files = (none, none, none) ∧ s.server.layers.cap = 100 := by
  decide +kernel

/-- A file that is made before the handshake is read at the handshake, the last reading before the client is ready. -/
theorem early_settingsFile_is_read :
    Message.ready.call? = some .ready ∧
      let s := emptyWorkspace.after [settingsFileMade, .message (.hello (some "file:///ws")), .message .ready]
      s.server.layers.files = (none, some 5, none) := by
  have hready : Message.ready.call? = some .ready := rfl
  obtain ⟨read, rest, hevents, -, hnothing, hfiles, -⟩ := ready_keeps_last_reading
    ⟨none, none, some (.ofText "/xdg/tdls/config.toml"), "info"⟩
    ⟨[(placeOf ["ws"], .directory), (placeOf ["xdg"], .directory)], placeOf ["ws"]⟩
    [settingsFileMade, .message (.hello (some "file:///ws"))] hready
  refine ⟨hready, hfiles.trans ?_⟩
  -- the handshake cannot be among the events after the last reading
  match read, hevents with
  | [], hevents =>
    cases hevents
    exact absurd hnothing (by decide +kernel)
  | [_], hevents =>
    cases hevents
    exact absurd hnothing (by decide +kernel)
  | [_, _], hevents =>
    cases hevents
    decide +kernel

end Missed

end DialogueScript
