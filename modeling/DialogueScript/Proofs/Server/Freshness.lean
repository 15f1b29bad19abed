import DialogueScript.Proofs.Server.Documents
import DialogueScript.Proofs.Server.Messages
import DialogueScript.Protocol.Encode
import DialogueScript.Server.Session

/-!
# Publications stay fresh

Where a server stands on a URI (`Server.standing`) is what a client should be shown there: the problems of the open
document under the current cap, or nothing if no document is open. `Server.Refreshes` says that the messages sent on the
way from one state to another keep a client informed: whatever has changed was published, and the last publication for a
URI is where the server stands on it now.

* What is published for a URI among other messages is told by `publicationsFor`; publishing all documents publishes it
  once or never (`publicationsFor_publishAll`).
* The relation composes (`Refreshes.trans`), so it is enough to look at single operations.
* A document that is written or closed is published alone (`refreshes_insert`, `refreshes_erase`), a change of the
  settings publishes all of them (`refreshes_publishAll`); so every call keeps the client informed
  (`perform_refreshes`), and so does every change of a settings file (`noticeAll_refreshes`).
* Until the first shutdown or exit every step does (`step_refreshes`), hence every run (`run_refreshes`).
-/

namespace DialogueScript

/-! ## Publications for a URI -/

section Publications

/-- Whether a message publishes the diagnostics of a URI. -/
def Outgoing.isFor (uri : Uri) : Outgoing → Bool
  | .publish u _ _ => u == uri
  | .log _ _ => false

/-- The publications for a URI among messages. -/
def publicationsFor (uri : Uri) (out : List Outgoing) : List Outgoing := out.filter (Outgoing.isFor uri)

variable {uri : Uri} {out more : List Outgoing}

theorem publicationsFor_append :
    publicationsFor uri (out ++ more) = publicationsFor uri out ++ publicationsFor uri more :=
  List.filter_append ..

theorem publicationsFor_log (level : LogLevel) (text : String) :
    publicationsFor uri (.log level text :: out) = publicationsFor uri out := rfl

theorem publicationsFor_publish (s : Server) (uri u : Uri) : publicationsFor uri (s.publish u) =
    if uri = u then ((s.documents.get? uri).map (s.publication uri)).toList else [] := by
  unfold Server.publish
  by_cases hu : uri = u
  · subst hu
    cases s.documents.get? uri <;> simp [publicationsFor, Outgoing.isFor, Server.publication]
  · have hu' : u ≠ uri := Ne.symm hu
    cases s.documents.get? u <;> simp [publicationsFor, Outgoing.isFor, Server.publication, hu, hu']

theorem publicationsFor_publishAll (s : Server) (uri : Uri) (hdistinct : s.documents.Distinct) :
    publicationsFor uri s.publishAll = ((s.documents.get? uri).map (s.publication uri)).toList := by
  unfold Server.publishAll
  generalize s.documents = docs at hdistinct ⊢
  induction docs with
  | nil => rfl
  | cons d docs ih =>
    obtain ⟨hd, hdocs⟩ := List.nodup_cons.1 hdistinct
    rw [List.map_cons, Documents.get?_cons]
    by_cases hu : uri = d.1
    · -- no later document has the URI of the first one
      have hnone : Documents.get? uri docs = none := by
        rw [Documents.get?_eq_none_iff]
        intro e he hne
        exact hd (List.mem_map.2 ⟨e, he, hne.trans hu⟩)
      have ih := ih hdocs
      rw [hnone] at ih
      rw [if_pos hu]
      simp [publicationsFor, Outgoing.isFor, Server.publication, hu] at ih ⊢
      exact ih
    · have hu' : d.1 ≠ uri := Ne.symm hu
      rw [if_neg hu, ← ih hdocs]
      simp [publicationsFor, Outgoing.isFor, Server.publication, hu']

/-- What reaches the client for a URI can be told from what is sent for it. -/
theorem publicationsFor_filter (p : Outgoing → Bool) :
    publicationsFor uri (out.filter p) = (publicationsFor uri out).filter p :=
  List.filter_comm ..

end Publications

/-! ## The last publication -/

section LastPublication

/-- The last publication for a URI among messages. -/
def lastFor (uri : Uri) (out : List Outgoing) : Option Outgoing := (publicationsFor uri out).getLast?

variable {uri u : Uri} {out more : List Outgoing}

@[simp] theorem lastFor_nil : lastFor uri [] = none := rfl

@[simp] theorem lastFor_append : lastFor uri (out ++ more) = (lastFor uri more).or (lastFor uri out) := by
  rw [lastFor, publicationsFor_append, List.getLast?_append]
  rfl

@[simp] theorem lastFor_log (level : LogLevel) (text : String) :
    lastFor uri (.log level text :: out) = lastFor uri out := by
  rw [lastFor, publicationsFor_log]
  rfl

theorem lastFor_publish (u : Uri) (version : Option Int) (diagnostics : List Diagnostic) :
    lastFor uri [.publish u version diagnostics] = if uri = u then some (.publish u version diagnostics) else none := by
  by_cases h : uri = u
  · simp [lastFor, publicationsFor, Outgoing.isFor, h]
  · have h' : u ≠ uri := Ne.symm h
    simp [lastFor, publicationsFor, Outgoing.isFor, h, h']

end LastPublication

namespace Server

/-! ## Where a server stands -/

section Standing

/-- What a client should be shown for a URI. -/
def standing (s : Server) (uri : Uri) : Outgoing :=
  match s.documents.get? uri with
  | some document => s.publication uri document
  | none => .publish uri none []

/-- Messages keep a client informed: the last publication for a URI is where the server stands, and without one nothing
has changed there. -/
def Refreshes (s : Server) (out : List Outgoing) (s' : Server) : Prop :=
  ∀ uri, lastFor uri out = some (s'.standing uri) ∨
    lastFor uri out = none ∧ s'.documents.get? uri = s.documents.get? uri ∧ s'.standing uri = s.standing uri

variable {s s' s'' : Server} {out more : List Outgoing}

theorem standing_congr {uri : Uri} (hdocs : s'.documents.get? uri = s.documents.get? uri)
    (hlayers : s'.layers = s.layers) : s'.standing uri = s.standing uri := by
  unfold standing publication
  rw [hdocs, hlayers]

/-- Without an open document there is nothing to show, whatever the settings. -/
theorem standing_of_none {uri : Uri} (h : s.documents.get? uri = none) : s.standing uri = .publish uri none [] := by
  unfold standing
  rw [h]

theorem standing_of_some {uri : Uri} {document : Document} (h : s.documents.get? uri = some document) :
    s.standing uri = s.publication uri document := by
  unfold standing
  rw [h]

theorem Refreshes.trans (h : s.Refreshes out s') (h' : s'.Refreshes more s'') : s.Refreshes (out ++ more) s'' := by
  intro uri
  rw [lastFor_append]
  rcases h' uri with h₂ | ⟨h₂, hdocs₂, hstand₂⟩
  · left
    rw [h₂]
    rfl
  · rw [h₂, Option.none_or]
    rcases h uri with h₁ | ⟨h₁, hdocs₁, hstand₁⟩
    · left
      rw [h₁, hstand₂]
    · exact Or.inr ⟨h₁, hdocs₂.trans hdocs₁, hstand₂.trans hstand₁⟩

theorem Refreshes.log (h : s.Refreshes out s') (level : LogLevel) (text : String) :
    s.Refreshes (.log level text :: out) s' := by
  intro uri
  rw [lastFor_log]
  exact h uri

/-- Nothing has to be said when documents and settings stay. -/
theorem refreshes_nil (hdocs : s'.documents = s.documents) (hlayers : s'.layers = s.layers) : s.Refreshes [] s' :=
  fun uri => Or.inr ⟨rfl, by rw [hdocs], standing_congr (by rw [hdocs]) hlayers⟩

end Standing

/-! ## Operations -/

section Operations

variable {s s' : Server} {d : Disk}

theorem lastFor_publish_uri (s : Server) (uri u : Uri) :
    lastFor u (s.publish uri) = if u = uri then (s.documents.get? uri).map (s.publication uri) else none := by
  rw [lastFor, publicationsFor_publish]
  by_cases hu : u = uri
  · subst hu
    rw [if_pos rfl, if_pos rfl]
    cases s.documents.get? u <;> rfl
  · rw [if_neg hu, if_neg hu]
    rfl

/-- Among the publications of all documents there is one for each open document and none for another URI. -/
theorem lastFor_publishAll (s : Server) (uri : Uri) (hdistinct : s.documents.Distinct) :
    lastFor uri s.publishAll = (s.documents.get? uri).map (s.publication uri) := by
  rw [lastFor, publicationsFor_publishAll s uri hdistinct]
  cases s.documents.get? uri <;> rfl

theorem refreshes_publish (s : Server) (uri : Uri) : s.Refreshes (s.publish uri) s := by
  intro u
  rw [lastFor_publish_uri]
  by_cases hu : u = uri
  · rw [if_pos hu]
    cases hdoc : s.documents.get? uri with
    | none => exact Or.inr ⟨rfl, rfl, rfl⟩
    | some document =>
      left
      rw [hu, standing_of_some hdoc]
      rfl
  · rw [if_neg hu]
    exact Or.inr ⟨rfl, rfl, rfl⟩

/-- A document that is written is published. -/
theorem refreshes_insert (s : Server) (uri : Uri) (document : Document) :
    s.Refreshes ({ s with documents := s.documents.insert uri document }.publish uri)
      { s with documents := s.documents.insert uri document } := by
  intro u
  rw [lastFor_publish_uri]
  have hget := Documents.get?_insert uri u document s.documents
  by_cases hu : u = uri
  · subst hu
    rw [if_pos rfl] at hget ⊢
    left
    rw [standing_of_some hget]
    simp only [hget, Option.map_some]
  · rw [if_neg hu] at hget ⊢
    exact Or.inr ⟨rfl, hget, standing_congr hget rfl⟩

/-- A document that is closed is published as one without problems. -/
theorem refreshes_erase (s : Server) (uri : Uri) :
    s.Refreshes [.publish uri none []] { s with documents := s.documents.erase uri } := by
  intro u
  rw [lastFor_publish]
  have hget := Documents.get?_erase uri u s.documents
  by_cases hu : u = uri
  · subst hu
    rw [if_pos rfl] at hget ⊢
    left
    rw [standing_of_none hget]
  · rw [if_neg hu] at hget ⊢
    exact Or.inr ⟨rfl, hget, standing_congr hget rfl⟩

/-- New settings are made known by publishing all documents. -/
theorem refreshes_publishAll (s s' : Server) (hdocs : s'.documents = s.documents)
    (hdistinct : s.documents.Distinct) : s.Refreshes s'.publishAll s' := by
  intro uri
  have hlast : lastFor uri s'.publishAll = (s'.documents.get? uri).map (s'.publication uri) :=
    lastFor_publishAll s' uri (by rw [hdocs]; exact hdistinct)
  rw [hlast]
  cases hget : s'.documents.get? uri with
  | some document =>
    left
    rw [standing_of_some hget]
    rfl
  | none =>
    have hget' : s.documents.get? uri = none := by rw [← hdocs]; exact hget
    exact Or.inr ⟨rfl, hget'.symm, by rw [standing_of_none hget, standing_of_none hget']⟩

theorem reload_refreshes (hdistinct : s.documents.Distinct) (d : Disk) :
    s.Refreshes (s.reload d).2 (s.reload d).1 :=
  (refreshes_publishAll s (s.reload d).1 rfl hdistinct).log _ _

theorem configure_refreshes (hdistinct : s.documents.Distinct) (settings : Json) :
    s.Refreshes (s.configure settings).2 (s.configure settings).1 := by
  have hall := refreshes_publishAll s (s.configure settings).1 rfl hdistinct
  cases hread : ClientSettings.ofJson settings with
  | ok client =>
    have hout : (s.configure settings).2 = (s.configure settings).1.publishAll := by simp [configure, hread]
    rw [hout]
    exact hall
  | error e =>
    have hout : (s.configure settings).2 = .log .warning e.message :: (s.configure settings).1.publishAll := by
      simp [configure, hread]
    rw [hout]
    exact hall.log _ _

/-- The calls between handshake and shutdown keep the phase, and never give a URI two documents. -/
theorem perform_keeps {call : Call} (hwork : call.isWork = true) (hdistinct : s.documents.Distinct) (d : Disk) :
    (s.perform d call).1.phase = s.phase ∧ (s.perform d call).1.documents.Distinct := by
  cases call with
  | handshake root => cases hwork
  | shutDown => cases hwork
  | ready | complete | resolveItem | unoffered | ignored | configured => exact ⟨rfl, hdistinct⟩
  | opened uri document => exact ⟨rfl, hdistinct.insert uri document⟩
  | changed uri document =>
    cases document with
    | none => exact ⟨rfl, hdistinct⟩
    | some document => exact ⟨rfl, hdistinct.insert uri document⟩
  | closed uri => exact ⟨rfl, hdistinct.erase uri⟩
  | filesChanged uris =>
    simp only [perform]
    split
    · exact ⟨rfl, hdistinct⟩
    · exact ⟨rfl, hdistinct⟩

/-- **Every call keeps the client informed.** -/
theorem perform_refreshes {call : Call} (hwork : call.isWork = true) (hdistinct : s.documents.Distinct) (d : Disk) :
    s.Refreshes (s.perform d call).2 (s.perform d call).1 := by
  cases call with
  | handshake root => cases hwork
  | shutDown => cases hwork
  | ready => exact (refreshes_nil rfl rfl).log _ _
  | complete | resolveItem | unoffered | ignored => exact refreshes_nil rfl rfl
  | opened uri document => exact refreshes_insert s uri document
  | changed uri document =>
    cases document with
    | none => exact refreshes_nil rfl rfl
    | some document => exact refreshes_insert s uri document
  | closed uri => exact (refreshes_erase s uri).log _ _
  | configured settings => exact configure_refreshes hdistinct settings
  | filesChanged uris =>
    simp only [perform]
    split
    · exact (reload_refreshes hdistinct d).log _ _
    · exact (refreshes_nil rfl rfl).log _ _

/-- Changes of settings files, one after the other, keep the client informed. -/
theorem noticeAll_refreshes (d : Disk) : ∀ (paths : List Path) (s : Server), s.documents.Distinct →
    s.Refreshes (s.noticeAll d paths).2 (s.noticeAll d paths).1
  | [], _, _ => refreshes_nil rfl rfl
  | p :: paths, s, hdistinct => by
    have hfirst := (reload_refreshes hdistinct d).log .info ("Config file changed: " ++ p.text)
    exact hfirst.trans (noticeAll_refreshes d paths (s.reload d).1 hdistinct)

theorem noticeAll_keeps (d : Disk) : ∀ (paths : List Path) (s : Server),
    (s.noticeAll d paths).1.phase = s.phase ∧ (s.noticeAll d paths).1.documents = s.documents
  | [], _ => ⟨rfl, rfl⟩
  | _ :: paths, s => noticeAll_keeps d paths (s.reload d).1

end Operations

/-! ## Serving -/

section Serving

/-- A server that was neither shut down nor left: it is active, or it waits for its client with nothing open and
nothing watched. -/
structure Serving (s : Server) : Prop where
  distinct : s.documents.Distinct
  phase : s.phase = .active ∨ s.phase = .uninitialized ∧ s.documents = [] ∧ s.watcher = none

/-- A step after which the server still serves and of which the client was told whatever concerns it. -/
def Informs (s : Server) (out : List Outgoing) (s' : Server) : Prop :=
  s'.Serving ∧ s.Refreshes (out.filter (delivers s'.phase)) s'

variable {s s' : Server} {out : List Outgoing} {d : Disk} {m : Message}

theorem Serving.informs_nil (hs : s.Serving) : s.Informs [] s := ⟨hs, refreshes_nil rfl rfl⟩

theorem delivers_active (o : Outgoing) : delivers .active o = true := by
  cases o <;> rfl

/-- An active server is heard. -/
theorem informs_of_active (hp : s'.phase = .active) (hdistinct : s'.documents.Distinct) (h : s.Refreshes out s') :
    s.Informs out s' := by
  refine ⟨⟨hdistinct, Or.inl hp⟩, ?_⟩
  have hall : out.filter (delivers s'.phase) = out := by
    rw [List.filter_eq_self]
    intro o _
    rw [hp]
    exact delivers_active o
  rw [hall]
  exact h

/-- The handshake changes the settings while nothing is open. -/
theorem handshake_informs (hs : s.Serving) (hdocs : s.documents = []) (d : Disk) (root : Option Path) :
    s.Informs (s.perform d (.handshake root)).2 (s.perform d (.handshake root)).1 := by
  refine informs_of_active rfl hs.distinct fun uri => Or.inr ⟨rfl, rfl, ?_⟩
  have hnone : s.documents.get? uri = none := by
    rw [hdocs]
    rfl
  rw [standing_of_none hnone]
  exact standing_of_none hnone

theorem handle_informs (hs : s.Serving) (hx : m.method ≠ "exit") (hd : m.method ≠ "shutdown") :
    s.Informs (s.handle d m).2 (s.handle d m).1 := by
  rcases hs.phase with hp | ⟨hp, hdocs, -⟩
  · rw [handle_active hp hx hd]
    split
    · rename_i hi
      cases hcall : m.call? with
      | none => exact hs.informs_nil
      | some call =>
        have hwork := call?_isWork hi hd hcall
        obtain ⟨hphase, hdistinct⟩ := perform_keeps hwork hs.distinct d
        exact informs_of_active (hphase.trans hp) hdistinct (perform_refreshes hwork hs.distinct d)
    · exact hs.informs_nil
  · rw [handle_uninitialized hp hx]
    split
    · rename_i hi
      cases hcall : m.call? with
      | none => exact hs.informs_nil
      | some call =>
        obtain ⟨root, rfl⟩ := call?_initialize hi hcall
        exact handshake_informs hs hdocs d root
    · exact hs.informs_nil

end Serving

end Server

/-! ## Sessions -/

section Sessions

/-- Whether an event is a message that ends the service. -/
def Event.stops : Event → Bool
  | .message m => m.method == "shutdown" || m.method == "exit"
  | .publish _ | .change _ => false

theorem stops_message_iff {m : Message} :
    (Event.message m).stops = false ↔ m.method ≠ "shutdown" ∧ m.method ≠ "exit" := by
  simp [Event.stops]

variable {s : Session} {e : Event}

theorem publish_informs (hs : s.server.Serving) (uri : Uri) : s.server.Informs (s.server.publish uri) s.server := by
  rcases hs.phase with hp | ⟨-, hdocs, -⟩
  · exact Server.informs_of_active hp hs.distinct (Server.refreshes_publish s.server uri)
  · have hnone : s.server.publish uri = [] := by
      unfold Server.publish
      rw [hdocs]
      rfl
    rw [hnone]
    exact hs.informs_nil

/-- **Every step keeps the client informed**, as long as it does not end the service. -/
theorem step_refreshes (hs : s.server.Serving) (he : e.stops = false) :
    (s.step e).1.server.Serving ∧ s.server.Refreshes (s.step e).2.out (s.step e).1.server := by
  cases e with
  | message m =>
    simp only [Event.stops, Bool.or_eq_false_iff, beq_eq_false_iff_ne] at he
    exact Server.handle_informs hs he.2 he.1
  | publish uri => exact publish_informs hs uri
  | change c =>
    simp only [Session.step, Session.react]
    cases hw : s.server.watcher with
    | none => exact hs.informs_nil
    | some w =>
      -- only an active server has a watcher
      rcases hs.phase with hp | ⟨-, -, hnone⟩
      · let s' : Server := { s.server with watcher := some (w.after c) }
        obtain ⟨hphase, hdocs⟩ := Server.noticeAll_keeps (s.disk.apply c) (w.reports s.disk c) s'
        refine Server.informs_of_active (hphase.trans hp) (by rw [hdocs]; exact hs.distinct) ?_
        have hwatch : s.server.Refreshes [] s' := Server.refreshes_nil rfl rfl
        exact hwatch.trans (Server.noticeAll_refreshes (s.disk.apply c) (w.reports s.disk c) s' hs.distinct)
      · rw [hnone] at hw
        cases hw

/-- Every run keeps the client informed, as long as nothing ends the service. -/
theorem run_refreshes : ∀ (events : List Event) (s : Session), s.server.Serving →
    (∀ e ∈ events, e.stops = false) →
    s.server.Refreshes ((s.run events).2.flatMap Shown.out) (s.run events).1.server
  | [], _, _, _ => Server.refreshes_nil rfl rfl
  | e :: events, s, hs, he => by
    obtain ⟨hserving, hstep⟩ := step_refreshes hs (he e List.mem_cons_self)
    have hrest := run_refreshes events (s.step e).1 hserving fun e' h => he e' (List.mem_cons_of_mem e h)
    exact hstep.trans hrest

/-- What the first steps show does not depend on the later ones. -/
theorem run_take_shown : ∀ (events : List Event) (s : Session) (n : Nat),
    (s.run (events.take n)).2 = (s.run events).2.take n
  | [], _, n => by simp [Session.run]
  | _ :: _, _, 0 => rfl
  | e :: events, s, n + 1 => by
    have ih := run_take_shown events (s.step e).1 n
    simp only [List.take_succ_cons, Session.run, ih]

theorem start_serving (startup : Startup) (d : Disk) : (Session.start startup d).server.Serving :=
  ⟨List.nodup_nil, Or.inr ⟨rfl, rfl, rfl⟩⟩

/-- **Publications stay fresh.** After each step of a run before the first shutdown or exit, the last publication for an
open document carries its version and its problems under the current cap, one JSON entry for each, and the last
publication for any other URI is empty and carries no version. -/
theorem publications_stay_fresh (startup : Startup) (d : Disk) (events : List Event) (n : Nat)
    (hn : ∀ e ∈ events.take n, e.stops = false) :
    let server := (Session.run (.start startup d) (events.take n)).1.server
    let sent := ((Session.run (.start startup d) events).2.take n).flatMap Shown.out
    (∀ uri document, server.documents.get? uri = some document →
      let found := validate document.content server.layers.cap
      lastFor uri sent = some (.publish uri (some document.version) found) ∧
        (lastFor uri sent).map Outgoing.params = some (.object [("uri", .string uri.render),
          ("diagnostics", .array (found.map Diagnostic.toJson)), ("version", .integer document.version)])) ∧
      ∀ uri, server.documents.get? uri = none → lastFor uri sent ≠ none →
        lastFor uri sent = some (.publish uri none []) ∧
          (lastFor uri sent).map Outgoing.params =
            some (.object [("uri", .string uri.render), ("diagnostics", .array [])]) := by
  intro server sent
  have hrun : (Session.start startup d).server.Refreshes sent server := by
    have h := run_refreshes (events.take n) (.start startup d) (start_serving startup d) hn
    rwa [run_take_shown] at h
  constructor
  · intro uri document hopen found
    have hlast : lastFor uri sent = some (.publish uri (some document.version) found) := by
      rcases hrun uri with h | ⟨-, hdocs, -⟩
      · rw [h, Server.standing_of_some hopen]
        rfl
      · -- nothing was open at the start
        rw [hopen] at hdocs
        cases hdocs
    exact ⟨hlast, by rw [hlast]; rfl⟩
  · intro uri hclosed hsent
    have hlast : lastFor uri sent = some (.publish uri none []) := by
      rcases hrun uri with h | ⟨h, -, -⟩
      · rw [h, Server.standing_of_none hclosed]
      · exact absurd h hsent
    exact ⟨hlast, by rw [hlast]; rfl⟩

end Sessions

/-! ## Two documents -/

section TwoDocuments

/-- The URI of a file in the root directory. -/
def rootFile (name : String) : Uri := ⟨"file".toList, some ⟨[], none, [], none⟩, '/' :: name.toList, none, none⟩

/-- A client opens two documents, closes the second, allows a single problem, and leaves. -/
def twoDocuments : List Event :=
  [.message (.hello none), .message (.didOpen "file:///a" 3 "- : x\n- y"), .message (.didOpen "file:///b" 1 "- z"),
    .message (.didClose "file:///b"), .message (.wantCap 1), .message .shutDown]

/-- A server without settings files on an empty disk. -/
def bareSession : Session := .start ⟨none, none, none, "info"⟩ ⟨[], []⟩

theorem two_documents_stay_fresh :
    (∀ e ∈ twoDocuments.take 5, e.stops = false) ∧
      (bareSession.run (twoDocuments.take 5)).1.server.documents.get? (rootFile "a") = some ⟨"- : x\n- y".toList, 3⟩ ∧
      (bareSession.run (twoDocuments.take 5)).1.server.documents.get? (rootFile "b") = none ∧
      lastFor (rootFile "a") (((bareSession.run twoDocuments).2.take 5).flatMap Shown.out) =
        some (.publish (rootFile "a") (some 3)
          (validate "- : x\n- y".toList (bareSession.run (twoDocuments.take 5)).1.server.layers.cap)) ∧
      lastFor (rootFile "b") (((bareSession.run twoDocuments).2.take 5).flatMap Shown.out) =
        some (.publish (rootFile "b") none []) := by
  have hstops : ∀ e ∈ twoDocuments.take 5, e.stops = false := by decide
  have hopen : (bareSession.run (twoDocuments.take 5)).1.server.documents.get? (rootFile "a") =
      some ⟨"- : x\n- y".toList, 3⟩ := by decide +kernel
  have hclosed : (bareSession.run (twoDocuments.take 5)).1.server.documents.get? (rootFile "b") = none := by
    decide +kernel
  have hsent : lastFor (rootFile "b") (((bareSession.run twoDocuments).2.take 5).flatMap Shown.out) ≠ none := by
    decide +kernel
  obtain ⟨hfresh, hempty⟩ := publications_stay_fresh ⟨none, none, none, "info"⟩ ⟨[], []⟩ twoDocuments 5 hstops
  exact ⟨hstops, hopen, hclosed, (hfresh _ _ hopen).1, (hempty _ hclosed hsent).1⟩

end TwoDocuments

end DialogueScript
