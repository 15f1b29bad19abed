import DialogueScript.Proofs.Server.Settings
import DialogueScript.Proofs.Watcher

/-!
# Settings follow the disk

A session that watches all of its settings files (`Session.Follows`) is told of every change that does not leave them
alone (`Follows.seen`), and goes on watching them as long as their directories stay (`Follows.step`, `Follows.after`).
It begins to do so when the client is ready (`follows_ready`), and from then on its settings follow the disk
(`layers_follow_disk`).
-/

namespace DialogueScript

/-! ## Watched settings -/

/-- Whether an event removes what is at a location. -/
def Event.removes (l : Location) : Event → Bool
  | .change c => c.removes l
  | .message _ | .publish _ => false

namespace Server

variable {s : Server} {d : Disk}

theorem perform_watcher {call : Call} (hwork : call.isWork = true) : (s.perform d call).1.watcher = s.watcher ∨
    (s.perform d call).1.watcher = some (.start d (s.startup.watchedFiles s.root)) := by
  cases call with
  | handshake | shutDown => cases hwork
  | ready => exact Or.inr rfl
  | complete | resolveItem | unoffered | opened | closed | configured | ignored => exact Or.inl rfl
  | changed uri document => cases document <;> exact Or.inl rfl
  | filesChanged uris =>
    simp only [Server.perform]
    split <;> exact Or.inl rfl

theorem handle_watcher {m : Message} (hp : s.phase = .active) (hm : (Event.message m).stops = false) :
    (s.handle d m).1.watcher = s.watcher ∨
      (s.handle d m).1.watcher = some (.start d (s.startup.watchedFiles s.root)) := by
  obtain ⟨hs, hx⟩ := stops_message_iff.1 hm
  rcases handle_active_cases hp hx hs with ⟨call, -, hwork, hhandle⟩ | ⟨-, hhandle⟩ <;> rw [hhandle]
  · exact perform_watcher hwork
  · exact Or.inl rfl

theorem noticeAll_watcher (d : Disk) : ∀ (paths : List Path) (s : Server), (s.noticeAll d paths).1.watcher = s.watcher
  | [], _ => rfl
  | _ :: paths, s => noticeAll_watcher d paths (s.reload d).1

end Server

namespace Session

variable {s : Session} {e : Event} {events : List Event} {f : Path} {startup : Startup} {root : Option Path}
  {client : Option Nat}

/-- A session watches a file: its watcher sees the name in the directory in which the file is looked for. -/
def Watches (s : Session) (f : Path) : Prop :=
  ∃ w l name, s.server.watcher = some w ∧ s.disk.LooksFor f l name ∧ w.Sees l name

/-- An event leaves the directory of a file where it is. -/
def Spares (s : Session) (e : Event) (f : Path) : Prop :=
  ∃ l, s.disk.home? f = some l ∧ (s.step e).1.disk.home? f = some l ∧ e.removes l = false

/-- A course of events leaves the directory of a file where it is: it is there all the time, and nothing removes it. -/
def Keeps (s : Session) (events : List Event) (f : Path) : Prop :=
  ∃ l, (∀ n, (s.after (events.take n)).disk.home? f = some l) ∧ ∀ e ∈ events, e.removes l = false

theorem Keeps.spares (h : s.Keeps (e :: events) f) : s.Spares e f := by
  obtain ⟨l, hhome, hremoves⟩ := h
  exact ⟨l, hhome 0, hhome 1, hremoves e List.mem_cons_self⟩

theorem Keeps.tail (h : s.Keeps (e :: events) f) : (s.step e).1.Keeps events f := by
  obtain ⟨l, hhome, hremoves⟩ := h
  exact ⟨l, fun n => hhome (n + 1), fun e' h' => hremoves e' (List.mem_cons_of_mem e h')⟩

/-- It is enough to look at the states on the way. -/
theorem keeps_of_le (l : Location) (hhome : ∀ n ≤ events.length, (s.after (events.take n)).disk.home? f = some l)
    (hremoves : ∀ e ∈ events, e.removes l = false) : s.Keeps events f := by
  refine ⟨l, fun n => ?_, hremoves⟩
  rcases Nat.le_total n events.length with hn | hn
  · exact hhome n hn
  · have hlast := hhome events.length le_rfl
    rwa [List.take_length, ← List.take_of_length_le hn] at hlast

/-- A session follows its settings files: its settings are coherent, and it watches all of the files. -/
structure Follows (s : Session) (startup : Startup) (root : Option Path) (client : Option Nat) : Prop where
  coherent : s.server.Coherent s.disk startup root client
  watches : ∀ f ∈ startup.watchedFiles root, s.Watches f

/-- **A change that a session is not told of changes no settings.** -/
theorem Follows.seen (h : s.Follows startup root client) (hkept : ∀ f ∈ startup.watchedFiles root, s.Spares e f) :
    s.reported e ≠ [] ∨ startup.load (s.step e).1.disk root = startup.load s.disk root := by
  cases e with
  | message | publish => exact Or.inr rfl
  | change c =>
    refine or_iff_not_imp_left.2 fun hnone => Startup.load_congr fun f hf => ?_
    obtain ⟨w, l, name, hw, hlook, hsees⟩ := h.watches f hf
    obtain ⟨l', hl, hl', -⟩ := hkept f hf
    cases hlook.home.symm.trans hl
    have hlook' : (s.disk.apply c).LooksFor f l name := by
      rw [step_change] at hl'
      exact { hlook with home := hl' }
    have hreports : w.reports s.disk c = [] := by
      rw [not_not] at hnone
      simpa only [reported, hw, Option.map_some, Option.getD_some] using hnone
    rw [step_change]
    exact cap?_apply_of_not_touched hlook.locate? hlook'.locate? (by simp)
      fun htouched => hsees.reports_ne_nil htouched hreports

/-- As long as the directories of the settings files stay, they are watched. -/
theorem Follows.step_watches (h : s.Follows startup root client) (he : e.stops = false)
    (hkept : ∀ f ∈ startup.watchedFiles root, s.Spares e f) :
    ∀ f ∈ startup.watchedFiles root, (s.step e).1.Watches f := by
  intro f hf
  obtain ⟨w, l, name, hw, hlook, hsees⟩ := h.watches f hf
  obtain ⟨l', hl, hl', hremoves⟩ := hkept f hf
  cases hlook.home.symm.trans hl
  have hlook' : (s.step e).1.disk.LooksFor f l name := { hlook with home := hl' }
  cases e with
  | message m =>
    rcases s.server.handle_watcher (d := s.disk) h.coherent.phase he with hsame | hnew
    · exact ⟨w, l, name, hsame.trans hw, hlook', hsees⟩
    · rw [h.coherent.startup_eq, h.coherent.root_eq] at hnew
      have hhomes : ∀ f ∈ startup.watchedFiles root, s.disk.home? f ≠ none := by
        intro g hg hnone
        obtain ⟨k, hk, -⟩ := hkept g hg
        rw [hnone] at hk
        cases hk
      exact ⟨_, l, name, hnew, hlook', Watcher.start_sees hf hlook hhomes⟩
  | publish uri => exact ⟨w, l, name, hw, hlook', hsees⟩
  | change c =>
    refine ⟨w.after c, l, name, ?_, hlook', hsees.after hremoves⟩
    rw [step_change, Server.noticeAll_watcher, hw]
    rfl

theorem Follows.step (h : s.Follows startup root client) (he : e.stops = false)
    (hkept : ∀ f ∈ startup.watchedFiles root, s.Spares e f) :
    (s.step e).1.Follows startup root (Layers.clientAfter client e.settings?) :=
  ⟨step_coherent h.coherent he (h.seen hkept), h.step_watches he hkept⟩

/-- A session that follows its settings files does so as long as their directories stay. -/
theorem Follows.after : ∀ {events : List Event} {s : Session} {client : Option Nat}, s.Follows startup root client →
    (∀ e ∈ events, e.stops = false) → (∀ f ∈ startup.watchedFiles root, s.Keeps events f) →
    (s.after events).Follows startup root (Layers.clientAfter client (lastSettings events))
  | [], _, _, h, _, _ => h
  | e :: events, s, client, h, he, hkept => by
    have hstep := h.step (he e List.mem_cons_self) fun f hf => (hkept f hf).spares
    rw [lastSettings_cons, clientAfter_or]
    exact hstep.after (fun e' h' => he e' (List.mem_cons_of_mem e h')) fun f hf => (hkept f hf).tail

/-- A session begins to follow its settings files when the client is ready. -/
theorem follows_ready {ready : Message} (h : s.server.Coherent s.disk startup root client)
    (hready : ready.call? = some .ready)
    (hlook : ∀ f ∈ startup.watchedFiles root, ∃ l name, s.disk.LooksFor f l name) :
    (s.step (.message ready)).1.Follows startup root client := by
  obtain ⟨hi, hs, hx⟩ := method_of_isWork hready rfl
  have hserver : (s.server.handle s.disk ready).1 =
      { s.server with watcher := some (.start s.disk (startup.watchedFiles root)) } := by
    rw [Server.handle_active h.phase hx hs, if_pos hi, hready, ← h.startup_eq, ← h.root_eq]
    rfl
  rw [step_message, hserver]
  refine ⟨⟨h.phase, h.startup_eq, h.root_eq, h.layers_eq⟩, fun f hf => ?_⟩
  obtain ⟨l, name, hl⟩ := hlook f hf
  refine ⟨_, l, name, rfl, hl, Watcher.start_sees hf hl fun g hg => ?_⟩
  obtain ⟨k, _, hk⟩ := hlook g hg
  rw [hk.home]
  exact Option.some_ne_none k

end Session

/-- **Settings follow the disk.** A session starts in a directory that is there, greets its client, waits without a
change of the settings files until the client is ready, and then goes on while their directories stay where they are.
Until a message ends the service, after every such course of events, its file layers are those that the files on the
disk set now, the layer of the command line is what was said there, and the layer of the client is the positive cap
that the client has sent last. -/
theorem layers_follow_disk {disk : Disk} {env : Environment} {options : Options} {startup : Startup}
    {root : Option Path} {hello ready : Message} {early waiting later : List Event} {met watching : Session}
    (hdisk : disk.Grounded) (hstartup : Startup.ofOptions disk env options = .ok startup)
    (hstops : ∀ e ∈ early ++ waiting ++ later, e.stops = false)
    (hearly : ((Session.start startup disk).after early).server.phase = .uninitialized)
    (hhello : hello.call? = some (.handshake root)) (hready : ready.call? = some .ready)
    (hmet : met = (Session.start startup disk).after (early ++ [.message hello]))
    (hwatching : watching = met.after (waiting ++ [.message ready]))
    (hsame : ∀ n, ∀ f ∈ startup.watchedFiles root,
      (met.after (waiting.take n)).disk.readText f = met.disk.readText f)
    (hkept : ∀ f ∈ startup.watchedFiles root, watching.Keeps later f) :
    let s := watching.after later
    let fresh := startup.load s.disk root
    s.server.layers.userFile = fresh.userFile ∧ s.server.layers.workspaceFile = fresh.workspaceFile ∧
      s.server.layers.configFile = fresh.configFile ∧ s.server.layers.cli = options.maxNumberOfProblems ∧
      s.server.layers.client = (lastSettings (waiting ++ later)).bind Layers.clientCap ∧
      ∀ n, s.server.layers.client = some n → 0 < n := by
  intro s fresh
  simp only [List.mem_append] at hstops
  have hcoherent := Session.coherent_handshake startup disk (fun e he => hstops e (.inl (.inl he))) hearly hhello
  rw [← hmet] at hcoherent
  have hwaited := Session.after_coherent hcoherent (fun e he => hstops e (.inl (.inr he))) hsame
  rw [Session.after_append, Session.after_cons, Session.after_nil] at hwatching
  have hlook : ∀ f ∈ startup.watchedFiles root, ∃ l name, (met.after waiting).disk.LooksFor f l name := by
    intro f hf
    obtain ⟨q, name, hname, rfl⟩ := Startup.exists_watchedFile_eq hdisk hstartup
      (fun r hr => handshake_root_ne_nil (hr ▸ hhello)) hf
    obtain ⟨l, hhome, -⟩ := hkept _ hf
    have hnow := hhome 0
    rw [hwatching] at hnow
    exact ⟨l, name, hname, ⟨q, rfl⟩, hnow⟩
  have hfollows := Session.follows_ready hwaited hready hlook
  rw [← hwatching] at hfollows
  have hlayers := (hfollows.after (fun e he => hstops e (.inr he)) hkept).coherent.layers_eq
  rw [← clientAfter_or, ← lastSettings_append, clientAfter_none] at hlayers
  obtain ⟨hcli, -, -⟩ := Startup.ofOptions_eq_ok hstartup
  have hclient : s.server.layers.client = (lastSettings (waiting ++ later)).bind Layers.clientCap := by rw [hlayers]
  refine ⟨by rw [hlayers], by rw [hlayers], by rw [hlayers], by rw [hlayers]; exact hcli, hclient, fun n hn => ?_⟩
  rw [hclient] at hn
  obtain ⟨settings, -, hcap⟩ := Option.bind_eq_some_iff.1 hn
  exact clientCap_pos hcap

/-! ## Settings that are edited -/

section Edits

/-- A disk with an empty workspace, a directory for the user's settings, and an explicit settings file. -/
def settingsDisk : Disk where
  entries := [(placeOf ["ws"], .directory), (placeOf ["etc"], .directory), (placeOf ["etc", "t.toml"], capFile "9"),
    (placeOf ["cfg"], .directory), (placeOf ["cfg", "tdls"], .directory)]
  workingDirectory := placeOf ["ws"]

/-- What a server starts with there. -/
def settingsStartup : Startup where
  cli := some 2
  configFile := some (.ofText "/etc/t.toml")
  userFile := some (.ofText "/cfg/tdls/config.toml")
  logLevel := "info"

/-- The client asks for a cap too early and then introduces itself. -/
def introducedSession : Session :=
  (Session.start settingsStartup settingsDisk).after
    ([.message (.wantCap 8)] ++ [.message (.hello (some "file:///ws/"))])

/-- The client asks for a cap in time and is ready. -/
def watchingSession : Session :=
  introducedSession.after ([.message (.wantCap 4)] ++ [.message .ready])

/-- Settings files are made, spoiled, removed, and covered by a directory; the client changes its mind. -/
def settingsEdits : List Event :=
  [.change (.put (placeOf ["ws", ".tdls.toml"]) (capFile "5")),
    .change (.put (placeOf ["etc", "t.toml"]) (capFile "x")), .message (.wantCap (-1)),
    .change (.remove (placeOf ["etc", "t.toml"])),
    .change (.put (placeOf ["cfg", "tdls", "config.toml"]) .directory), .message (.wantCap 6),
    .change (.put (placeOf ["ws", ".tdls.toml"]) (capFile "7"))]

theorem settingsEdits_followed :
    settingsDisk.Grounded ∧
      (∀ f ∈ settingsStartup.watchedFiles (some (.ofText "/ws/")), watchingSession.Keeps settingsEdits f) ∧
      let layers := (watchingSession.after settingsEdits).server.layers
      layers.userFile = none ∧ layers.workspaceFile = some 7 ∧ layers.configFile = none ∧ layers.cli = some 2 ∧
        layers.client = some 6 := by
  have hdisk : settingsDisk.Grounded := by decide +kernel
  have hstartup : Startup.ofOptions settingsDisk ⟨none, some "/cfg"⟩ ⟨some 2, some "../etc/./t.toml", "info"⟩ =
      .ok settingsStartup := by decide +kernel
  have hkept : ∀ f ∈ settingsStartup.watchedFiles (some (.ofText "/ws/")), watchingSession.Keeps settingsEdits f := by
    intro f hf
    rcases Startup.mem_watchedFiles.1 hf with hf | hf | hf <;> cases hf
    · exact Session.keeps_of_le (placeOf ["cfg", "tdls"]) (by decide +kernel) (by decide +kernel)
    · exact Session.keeps_of_le (placeOf ["ws"]) (by decide +kernel) (by decide +kernel)
    · exact Session.keeps_of_le (placeOf ["etc"]) (by decide +kernel) (by decide +kernel)
  -- the one message before the client is ready leaves the disk alone
  have hwaiting : ∀ n, (introducedSession.after (List.take n [.message (.wantCap 4)])).disk =
      introducedSession.disk := by
    intro n
    cases n with
    | zero => rfl
    | succ n => rw [List.take_succ_cons, List.take_nil]; rfl
  obtain ⟨huser, hworkspace, hconfig, hcli, hclient, -⟩ := layers_follow_disk hdisk hstartup (by decide +kernel)
    (by decide +kernel) rfl rfl (rfl : introducedSession = _) (rfl : watchingSession = _)
    (fun n f _ => by rw [hwaiting n]) hkept
  exact ⟨hdisk, hkept, huser.trans (by decide +kernel), hworkspace.trans (by decide +kernel),
    hconfig.trans (by decide +kernel), hcli, hclient.trans (by decide +kernel)⟩

end Edits

end DialogueScript
