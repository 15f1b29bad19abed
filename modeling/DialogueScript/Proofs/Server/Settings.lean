import DialogueScript.Proofs.Layers
import DialogueScript.Proofs.Server.Freshness
import DialogueScript.Proofs.Startup

/-!
# Coherent settings

The settings of a server are coherent with a disk (`Server.Coherent`) when its file layers are what the settings files
on that disk say. The handshake makes them so (`coherent_handshake`).

* Messages keep settings coherent, whatever they are (`Coherent.handle`): they either leave the file layers alone or
  read all of them again, and of the other layers they change only the client's.
* An event keeps settings coherent when it leaves the settings files alone or is reported (`step_coherent`), so settings
  stay coherent while the files do not change (`after_coherent`).
-/

namespace DialogueScript

/-! ## Courses of events -/

namespace Session

/-- The session after a course of events. -/
def after (s : Session) (events : List Event) : Session := (s.run events).1

variable (s : Session)

@[simp] theorem after_nil : s.after [] = s := rfl

@[simp] theorem after_cons (e : Event) (events : List Event) : s.after (e :: events) = (s.step e).1.after events := rfl

@[simp] theorem after_append (events more : List Event) : s.after (events ++ more) = (s.after events).after more := by
  induction events generalizing s with
  | nil => rfl
  | cons e events ih => exact ih (s.step e).1

theorem step_message (m : Message) : (s.step (.message m)).1 = ⟨(s.server.handle s.disk m).1, s.disk⟩ := rfl

end Session

/-- The settings that a call brings from the client. -/
def Call.settings? : Call → Option Json
  | .configured settings => some settings
  | _ => none

/-- The settings that an event brings from the client. -/
def Event.settings? : Event → Option Json
  | .message m => m.call?.bind Call.settings?
  | .publish _ | .change _ => none

/-- The settings that the client has sent last. -/
def lastSettings (events : List Event) : Option Json := (events.filterMap Event.settings?).getLast?

theorem lastSettings_append (events more : List Event) :
    lastSettings (events ++ more) = (lastSettings more).or (lastSettings events) := by
  simp only [lastSettings, List.filterMap_append, List.getLast?_append]

theorem lastSettings_cons (e : Event) (events : List Event) :
    lastSettings (e :: events) = (lastSettings events).or e.settings? := by
  have hone : lastSettings [e] = e.settings? := by
    cases h : e.settings? <;> simp [lastSettings, h]
  rw [← hone, ← lastSettings_append, List.singleton_append]

/-- The client layer after settings of the client, if there are any. -/
def Layers.clientAfter (client : Option Nat) (settings : Option Json) : Option Nat :=
  (settings.map clientCap).getD client

theorem clientAfter_or (client : Option Nat) (first later : Option Json) :
    Layers.clientAfter client (later.or first) = Layers.clientAfter (Layers.clientAfter client first) later := by
  cases later <;> rfl

theorem clientAfter_none (settings : Option Json) :
    Layers.clientAfter none settings = settings.bind Layers.clientCap := by
  cases settings <;> rfl

theorem clientCap_pos {settings : Json} {n : Nat} (h : Layers.clientCap settings = some n) : 0 < n := by
  obtain ⟨_, _, _, hpos⟩ := (Layers.clientCap_eq_some_iff settings n).1 h
  exact hpos

/-! ## The handshake -/

section Handshake

variable {m : Message}

/-- Only `initialize` makes a handshake, with the root that its parameters name. -/
theorem call?_handshake {root : Option Path} (h : m.call? = some (.handshake root)) :
    m.method = "initialize" ∧ ∃ v, root = Call.rootOf v := by
  obtain ⟨method, hmethod, hcall⟩ := Option.bind_eq_some_iff.1 h
  obtain ⟨hmem, hname⟩ := named?_eq_some hmethod
  have hi : m.method = "initialize" := by
    rcases read?_of_mem hmem (Method.read?_of_call? hcall) with ⟨hn, -⟩ | ⟨-, hother⟩ | hwork
    · exact hname.symm.trans hn
    · cases hother
    · cases hwork
  refine ⟨hi, ?_⟩
  rw [hi] at hmethod
  cases hmethod
  obtain ⟨v, hv⟩ := shaped_eq_some (Method.read?_of_call? hcall)
  cases hv
  exact ⟨v, rfl⟩

theorem decode_slash (s : List Char) : Uri.decode ('/' :: s) ≠ [] := by
  rw [Uri.decode]
  · exact List.append_ne_nil_of_left_ne_nil (by decide) _
  · simp

theorem filePath?_ne_nil {u : Uri} {p : Path} (h : u.filePath? = some p) : p.bytes ≠ [] := by
  unfold Uri.filePath? at h
  dsimp only at h
  split at h
  · cases h
  · rename_i hpath
    have hhead : u.path.head? = some '/' := by
      by_contra hne
      simp [hne] at hpath
    obtain ⟨rest, hrest⟩ := List.head?_eq_some_iff.1 hhead
    have hdecode : Uri.decode u.path ≠ [] := by
      rw [hrest]
      exact decode_slash rest
    cases h
    split
    · simp
    · exact hdecode

/-- The path of a root is never empty. -/
theorem handshake_root_ne_nil {r : Path} (h : m.call? = some (.handshake (some r))) : r.bytes ≠ [] := by
  obtain ⟨-, v, hv⟩ := call?_handshake h
  have hpath : ∃ u : Uri, u.filePath? = some r := by
    unfold Call.rootOf at hv
    split at hv
    · obtain ⟨u, -, hu⟩ := Option.bind_eq_some_iff.1 hv.symm
      exact ⟨u, hu⟩
    · obtain ⟨u, -, hu⟩ := Option.bind_eq_some_iff.1 hv.symm
      exact ⟨u, hu⟩
  obtain ⟨u, hu⟩ := hpath
  exact filePath?_ne_nil hu

end Handshake

/-! ## Coherent settings -/

namespace Server

/-- The settings of an active server are coherent: its file layers are what the settings files on a disk say. -/
structure Coherent (s : Server) (d : Disk) (startup : Startup) (root : Option Path) (client : Option Nat) : Prop where
  phase : s.phase = .active
  startup_eq : s.startup = startup
  root_eq : s.root = root
  layers_eq : s.layers = { startup.load d root with client := client }

variable {s : Server} {d d' : Disk} {startup : Startup} {root : Option Path} {client : Option Nat}

theorem Coherent.of_load (h : s.Coherent d startup root client) (hload : startup.load d' root = startup.load d root) :
    s.Coherent d' startup root client :=
  { h with layers_eq := by rw [hload]; exact h.layers_eq }

/-- To read the files anew makes settings coherent with another disk. -/
theorem Coherent.reload (h : s.Coherent d startup root client) (d' : Disk) :
    (s.reload d').1.Coherent d' startup root client := by
  refine ⟨h.phase, h.startup_eq, h.root_eq, ?_⟩
  simp only [Server.reload, h.startup_eq, h.root_eq, h.layers_eq]
  rfl

/-- The first report of a change makes settings coherent with the disk after it. -/
theorem Coherent.noticeAll (d' : Disk) : ∀ (paths : List Path) {s : Server} {d : Disk},
    s.Coherent d startup root client → paths ≠ [] ∨ startup.load d' root = startup.load d root →
    (s.noticeAll d' paths).1.Coherent d' startup root client
  | [], _, _, h, hseen => h.of_load (hseen.resolve_left fun hne => hne rfl)
  | _ :: paths, _, _, h, _ => Coherent.noticeAll d' paths (h.reload d') (Or.inr rfl)

/-- Every call between handshake and shutdown keeps settings coherent, and the client layer is what it says. -/
theorem Coherent.perform {call : Call} (h : s.Coherent d startup root client) (hwork : call.isWork = true) :
    (s.perform d call).1.Coherent d startup root (Layers.clientAfter client call.settings?) := by
  cases call with
  | handshake | shutDown => cases hwork
  | ready | complete | resolveItem | unoffered | opened | closed | ignored =>
    exact ⟨h.phase, h.startup_eq, h.root_eq, h.layers_eq⟩
  | changed uri document => cases document <;> exact ⟨h.phase, h.startup_eq, h.root_eq, h.layers_eq⟩
  | configured settings =>
    refine ⟨h.phase, h.startup_eq, h.root_eq, ?_⟩
    simp only [Server.perform, configure, Layers.withClient, h.layers_eq]
    rfl
  | filesChanged uris =>
    simp only [Server.perform]
    split
    · exact h.reload d
    · exact h

/-- **Every message keeps settings coherent**, unless it ends the service. -/
theorem Coherent.handle {m : Message} (h : s.Coherent d startup root client)
    (hm : (Event.message m).stops = false) :
    (s.handle d m).1.Coherent d startup root (Layers.clientAfter client (Event.message m).settings?) := by
  obtain ⟨hs, hx⟩ := stops_message_iff.1 hm
  rcases handle_active_cases h.phase hx hs with ⟨call, hcall, hwork, hhandle⟩ | ⟨hcall, hhandle⟩
  · have hsettings : (Event.message m).settings? = call.settings? := by simp [Event.settings?, hcall]
    rw [hsettings, hhandle]
    exact h.perform hwork
  · -- neither a message without a call nor a second handshake brings settings
    have hsettings : (Event.message m).settings? = none := by
      cases hm : m.call? with
      | none => simp [Event.settings?, hm]
      | some call =>
        have hnone : call.settings? = none := by
          cases call with
          | handshake | shutDown => rfl
          | _ => cases hcall _ hm
        simp [Event.settings?, hm, hnone]
    rw [hsettings, hhandle]
    exact h

end Server

/-! ## Events -/

namespace Session

variable {s : Session} {e : Event}

/-- The call that is carried out at an event. -/
def served? (s : Session) : Event → Option Call
  | .message m => s.server.phase.served? m
  | .publish _ | .change _ => none

/-- The paths reported to the server at an event. -/
def reported (s : Session) : Event → List Path
  | .change c => (s.server.watcher.map fun w => w.reports s.disk c).getD []
  | .message _ | .publish _ => []

theorem step_change (s : Session) (c : Disk.Change) : (s.step (.change c)).1 =
    ⟨({ s.server with watcher := s.server.watcher.map (Watcher.after · c) }.noticeAll (s.disk.apply c)
      (s.reported (.change c))).1, s.disk.apply c⟩ := by
  obtain ⟨⟨_, _, _, _, _, watcher⟩, _⟩ := s
  cases watcher <;> rfl

/-- An active server stays so until a message ends the service. -/
theorem step_active (hs : s.server.Serving) (hp : s.server.phase = .active) (he : e.stops = false) :
    (s.step e).1.server.phase = .active := by
  cases e with
  | message m =>
    obtain ⟨hd, hx⟩ := stops_message_iff.1 he
    rw [step_message]
    rcases Server.handle_active_cases (d := s.disk) hp hx hd with ⟨call, -, hwork, hhandle⟩ | ⟨-, hhandle⟩
    · rw [hhandle]
      exact (Server.perform_keeps hwork hs.distinct s.disk).1.trans hp
    · rw [hhandle]
      exact hp
  | publish uri => exact hp
  | change c =>
    rw [step_change]
    exact (Server.noticeAll_keeps _ _ _).1.trans hp

/-- As long as a server waits for its client, nothing happens to it. -/
theorem step_uninitialized (hs : s.server.Serving) (he : e.stops = false)
    (h : (s.step e).1.server.phase = .uninitialized) : (s.step e).1.server = s.server := by
  rcases hs.phase with hp | ⟨hp, -, hw⟩
  · rw [step_active hs hp he] at h
    cases h
  · cases e with
    | message m =>
      rw [step_message, Server.handle_uninitialized hp (stops_message_iff.1 he).2] at h ⊢
      by_cases hi : m.method = "initialize"
      · rw [if_pos hi] at h ⊢
        cases hcall : m.call? with
        | none => rfl
        | some call =>
          obtain ⟨root, rfl⟩ := call?_initialize hi hcall
          rw [hcall] at h
          cases h
      · rw [if_neg hi]
    | publish uri => rfl
    | change c =>
      simp only [step, react, hw]

theorem after_uninitialized {events : List Event} (hs : s.server.Serving) (he : ∀ e ∈ events, e.stops = false)
    (h : (s.after events).server.phase = .uninitialized) : (s.after events).server = s.server := by
  induction events generalizing s with
  | nil => rfl
  | cons e events ih =>
    have hstops := he e List.mem_cons_self
    have hrest := ih (step_refreshes hs hstops).1 (fun e' h' => he e' (List.mem_cons_of_mem e h')) h
    have hfirst := step_uninitialized hs hstops (by rw [← hrest]; exact h)
    exact hrest.trans hfirst

/-- **The handshake makes settings coherent.** -/
theorem coherent_handshake (startup : Startup) (d : Disk) {events : List Event} {hello : Message} {root : Option Path}
    (he : ∀ e ∈ events, e.stops = false)
    (hearly : ((start startup d).after events).server.phase = .uninitialized)
    (hhello : hello.call? = some (.handshake root)) :
    let s := (start startup d).after (events ++ [.message hello])
    s.server.Coherent s.disk startup root none := by
  intro s
  obtain ⟨hi, -⟩ := call?_handshake hhello
  have hserver := after_uninitialized (start_serving startup d) he hearly
  have hs : s = ⟨(((start startup d).after events).server.handle ((start startup d).after events).disk hello).1,
      ((start startup d).after events).disk⟩ := after_append _ _ _
  have hexit : hello.method ≠ "exit" := by rw [hi]; decide
  rw [hs, Server.handle_uninitialized hearly hexit, if_pos hi, hhello, hserver]
  exact ⟨rfl, rfl, rfl, rfl⟩

/-- Settings stay coherent when files change and settings do not, or when the change is reported. -/
theorem step_coherent {startup : Startup} {root : Option Path} {client : Option Nat}
    (h : s.server.Coherent s.disk startup root client) (he : e.stops = false)
    (hseen : s.reported e ≠ [] ∨ startup.load (s.step e).1.disk root = startup.load s.disk root) :
    (s.step e).1.server.Coherent (s.step e).1.disk startup root (Layers.clientAfter client e.settings?) := by
  cases e with
  | message m => exact h.handle he
  | publish uri => exact h
  | change c =>
    rw [step_change] at hseen ⊢
    have hwatch : Server.Coherent { s.server with watcher := s.server.watcher.map (Watcher.after · c) } s.disk startup
        root client := ⟨h.phase, h.startup_eq, h.root_eq, h.layers_eq⟩
    exact hwatch.noticeAll _ _ hseen

/-- A course of events during which the settings files stay the same keeps settings coherent. -/
theorem after_coherent {startup : Startup} {root : Option Path} : ∀ {events : List Event} {s : Session}
    {client : Option Nat}, s.server.Coherent s.disk startup root client → (∀ e ∈ events, e.stops = false) →
    (∀ n, ∀ f ∈ startup.watchedFiles root, (s.after (events.take n)).disk.readText f = s.disk.readText f) →
    (s.after events).server.Coherent (s.after events).disk startup root
      (Layers.clientAfter client (lastSettings events))
  | [], _, _, h, _, _ => h
  | e :: events, s, client, h, he, hsame => by
    have hfirst : ∀ f ∈ startup.watchedFiles root, (s.step e).1.disk.readText f = s.disk.readText f := hsame 1
    have hload := Startup.load_congr fun f hf => cap?_congr (hfirst f hf)
    have hstep := step_coherent h (he e List.mem_cons_self) (Or.inr hload)
    rw [lastSettings_cons, clientAfter_or]
    refine after_coherent hstep (fun e' h' => he e' (List.mem_cons_of_mem e h')) fun n f hf => ?_
    exact (hsame (n + 1) f hf).trans (hfirst f hf).symm

end Session

end DialogueScript
