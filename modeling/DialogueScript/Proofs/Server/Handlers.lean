import DialogueScript.Proofs.Server.Freshness

/-!
# Handlers

The server does not wait for one handler to end before it begins the next. What is left of a handler is a `Handler`: the
messages that it is about to send, and the `Stage` that follows. It lets go of the server after each message and after
each look at the documents, the settings or the disk, so the steps of several handlers mix in any order. A `Pool` runs
them by a schedule.

An undisturbed handler does what its call does as a whole (`call_completes`, `notice_completes`). So the course that
`Server.perform` describes is one of the ways in which a handler can run (`run_call`, `run_notice`).
-/

namespace DialogueScript

/-! ## Handlers -/

section Handlers

/-- What a handler does next, when it has nothing to send. -/
inductive Stage where
  | store (uri : Uri) (document : Document)
  | drop (uri : Uri)
  | configure (settings : Json)
  /-- Reads the settings files. -/
  | reload (d : Disk)
  /-- Takes over what was read in the settings files. -/
  | refresh (fresh : Layers)
  /-- Looks which documents are open. -/
  | list
  /-- Publishes the documents of some URIs, one after the other, and ends. -/
  | visit (uris : List Uri)
  /-- Has taken a copy of a document, and validates it under the settings. -/
  | weigh (uri : Uri) (document : Document) (rest : List Uri)

/-- What is left of a handler: the messages to send first, and what it does then. -/
structure Handler where
  outbox : List Outgoing
  stage : Stage

/-- What a handler does at once, without letting go of the server. -/
def Stage.step (s : Server) : Stage → Server × Handler
  | .store uri document => ({ s with documents := s.documents.insert uri document }, ⟨[], .visit [uri]⟩)
  | .drop uri =>
    ({ s with documents := s.documents.erase uri },
      ⟨[.log .info (uri.render ++ " closed."), .publish uri none []], .visit []⟩)
  | .configure settings => ({ s with layers := s.layers.withClient settings }, ⟨[], .list⟩)
  | .reload d => (s, ⟨[], .refresh (s.startup.load d s.root)⟩)
  | .refresh fresh =>
    let s := { s with layers := s.layers.reload fresh }
    (s, ⟨[.log .info ("Settings reloaded (maxNumberOfProblems = " ++ toString s.layers.cap ++ ")")], .list⟩)
  | .list => (s, ⟨[], .visit (s.documents.map Prod.fst)⟩)
  | .visit [] => (s, ⟨[], .visit []⟩)
  | .visit (uri :: rest) =>
    (s, match s.documents.get? uri with
      | some document => ⟨[], .weigh uri document rest⟩
      | none => ⟨[], .visit rest⟩)
  | .weigh uri document rest => (s, ⟨[s.publication uri document], .visit rest⟩)

/-- One step of a handler, with the message that it sends. -/
def Handler.step (s : Server) : Handler → Server × List Outgoing × Handler
  | ⟨o :: outbox, stage⟩ => (s, [o], ⟨outbox, stage⟩)
  | ⟨[], stage⟩ => ((stage.step s).1, [], (stage.step s).2)

/-- The handler of a call about documents or settings. -/
def Call.handler? (d : Disk) : Call → Option Handler
  | .opened uri document | .changed uri (some document) => some ⟨[], .store uri document⟩
  | .changed _ none => some ⟨[], .visit []⟩
  | .closed uri => some ⟨[], .drop uri⟩
  | .configured settings =>
    match ClientSettings.ofJson settings with
    | .ok _ => some ⟨[], .configure settings⟩
    | .error e => some ⟨[.log .warning e.message], .configure settings⟩
  | .filesChanged uris =>
    some ⟨[.log .info "We received a file change event"],
      if uris.any Server.namesSettings then .reload d else .visit []⟩
  | _ => none

/-- The handler of a change that the watcher reports. -/
def Handler.notice (d : Disk) (p : Path) : Handler := ⟨[.log .info ("Config file changed: " ++ p.text)], .reload d⟩

/-- A server and its handlers. -/
structure Pool where
  server : Server
  handlers : List Handler

/-- One step of one handler. Its message reaches the client by the phase in which it is sent. -/
def Pool.step (p : Pool) (i : Nat) : Pool × List Outgoing :=
  match p.handlers[i]? with
  | none => (p, [])
  | some handler =>
    let (server, out, next) := handler.step p.server
    (⟨server, p.handlers.set i next⟩, out.filter (Server.delivers server.phase))

/-- The steps of the handlers in the order of a schedule. -/
def Pool.run : Pool → List Nat → Pool × List Outgoing
  | p, [] => (p, [])
  | p, i :: rest =>
    let (p, out) := p.step i
    let (p, more) := p.run rest
    (p, out ++ more)

end Handlers

/-! ## Pools -/

section Pools

variable {s : Server} {p : Pool} {i : Nat} {handler : Handler}

theorem Stage.step_visit_none {uri : Uri} (h : s.documents.get? uri = none) (rest : List Uri) :
    step s (.visit (uri :: rest)) = (s, ⟨[], .visit rest⟩) := by
  simp only [step, h]

theorem Stage.step_visit_some {uri : Uri} {document : Document} (h : s.documents.get? uri = some document)
    (rest : List Uri) : step s (.visit (uri :: rest)) = (s, ⟨[], .weigh uri document rest⟩) := by
  simp only [step, h]

theorem Stage.step_phase (s : Server) (stage : Stage) : (stage.step s).1.phase = s.phase := by
  cases stage with
  | visit uris => cases uris <;> rfl
  | store | drop | configure | reload | refresh | list | weigh => rfl

theorem Handler.step_phase (s : Server) : ∀ handler : Handler, (handler.step s).1.phase = s.phase
  | ⟨_ :: _, _⟩ => rfl
  | ⟨[], stage⟩ => stage.step_phase s

theorem Pool.step_of_none (h : p.handlers[i]? = none) : p.step i = (p, []) := by
  simp only [step, h]

theorem Pool.step_of_some (h : p.handlers[i]? = some handler) : p.step i =
    (⟨(handler.step p.server).1, p.handlers.set i (handler.step p.server).2.2⟩,
      (handler.step p.server).2.1.filter (Server.delivers p.server.phase)) := by
  simp only [step, h, handler.step_phase]

theorem Pool.step_phase (p : Pool) (i : Nat) : (p.step i).1.server.phase = p.server.phase := by
  cases ht : p.handlers[i]? with
  | none => rw [step_of_none ht]
  | some handler =>
    rw [step_of_some ht]
    exact handler.step_phase p.server

end Pools

/-! ## Undisturbed handlers -/

section Undisturbed

/-- A handler that runs to its end while nothing else happens, with the server after it and the messages sent. -/
inductive Handler.Completes : Handler → Server → Server → List Outgoing → Prop
  | ended (s : Server) : Completes ⟨[], .visit []⟩ s s []
  | send {s s' : Server} {o : Outgoing} {outbox out : List Outgoing} {stage : Stage}
      (h : Completes ⟨outbox, stage⟩ s s' out) : Completes ⟨o :: outbox, stage⟩ s s' (o :: out)
  | act {s s' : Server} {out : List Outgoing} {stage : Stage}
      (h : Completes (stage.step s).2 (stage.step s).1 s' out) : Completes ⟨[], stage⟩ s s' out

variable {s s' : Server} {out : List Outgoing} {handler : Handler} {d : Disk}

theorem visit_completes (s : Server) : ∀ uris : List Uri,
    Handler.Completes ⟨[], .visit uris⟩ s s (uris.flatMap s.publish)
  | [] => .ended s
  | uri :: rest => by
    have hrest := visit_completes s rest
    rw [List.flatMap_cons]
    cases hdoc : s.documents.get? uri with
    | none =>
      have hnone : s.publish uri = [] := by simp [Server.publish, hdoc]
      rw [hnone]
      exact .act (by rw [Stage.step_visit_none hdoc]; exact hrest)
    | some document =>
      have hone : s.publish uri = [s.publication uri document] := by simp [Server.publish, hdoc]
      rw [hone]
      exact .act (by rw [Stage.step_visit_some hdoc]; exact .act (.send hrest))

theorem store_completes (s : Server) (uri : Uri) (document : Document) :
    Handler.Completes ⟨[], .store uri document⟩ s { s with documents := s.documents.insert uri document }
      ({ s with documents := s.documents.insert uri document }.publish uri) := by
  have h := visit_completes { s with documents := s.documents.insert uri document } [uri]
  rw [List.flatMap_singleton] at h
  exact .act h

/-- To publish all documents is to publish one after the other. -/
theorem publishAll_eq (hdistinct : s.documents.Distinct) :
    s.publishAll = (s.documents.map Prod.fst).flatMap s.publish := by
  unfold Server.publishAll
  rw [List.flatMap_map, List.map_eq_flatMap]
  refine List.flatMap_congr fun e he => ?_
  simp [Server.publish, hdistinct.get?_of_mem he]

theorem list_completes (hdistinct : s.documents.Distinct) : Handler.Completes ⟨[], .list⟩ s s s.publishAll := by
  rw [publishAll_eq hdistinct]
  exact .act (visit_completes s _)

theorem reload_completes (hdistinct : s.documents.Distinct) (d : Disk) :
    Handler.Completes ⟨[], .reload d⟩ s (s.reload d).1 (s.reload d).2 :=
  .act (.act (.send (list_completes hdistinct)))

theorem configure_completes (hdistinct : s.documents.Distinct) (settings : Json) :
    Handler.Completes ⟨[], .configure settings⟩ s (s.configure settings).1 (s.configure settings).1.publishAll :=
  .act (list_completes hdistinct)

/-- **An undisturbed handler does what its call does as a whole.** -/
theorem call_completes {call : Call} (hcall : call.handler? d = some handler) (hdistinct : s.documents.Distinct) :
    handler.Completes s (s.perform d call).1 (s.perform d call).2 := by
  cases call with
  | handshake | ready | shutDown | complete | resolveItem | unoffered | ignored => cases hcall
  | opened uri document =>
    cases hcall
    exact store_completes s uri document
  | changed uri document =>
    cases document with
    | none =>
      cases hcall
      exact .ended s
    | some document =>
      cases hcall
      exact store_completes s uri document
  | closed uri =>
    cases hcall
    exact .act (.send (.send (.ended _)))
  | configured settings =>
    have h := configure_completes hdistinct settings
    cases hread : ClientSettings.ofJson settings with
    | ok client =>
      simp only [Call.handler?, hread, Option.some.injEq] at hcall
      subst hcall
      simpa [Server.perform, Server.configure, hread] using h
    | error e =>
      simp only [Call.handler?, hread, Option.some.injEq] at hcall
      subst hcall
      simpa [Server.perform, Server.configure, hread] using h.send
  | filesChanged uris =>
    cases hcall
    simp only [Server.perform]
    split
    · exact .send (reload_completes hdistinct d)
    · exact .send (.ended s)

theorem notice_completes (hdistinct : s.documents.Distinct) (d : Disk) (path : Path) :
    (Handler.notice d path).Completes s (s.noticeAll d [path]).1 (s.noticeAll d [path]).2 := by
  have hout : (s.noticeAll d [path]).2 = .log .info ("Config file changed: " ++ path.text) :: (s.reload d).2 := by
    simp [Server.noticeAll]
  rw [hout]
  exact .send (reload_completes hdistinct d)

/-- A step that is followed by a run of the same handler to its end. -/
theorem run_cons_undisturbed {p : Pool} {i n : Nat} {final : Handler} (ht : p.handlers[i]? = some handler)
    (hn : Pool.run ⟨(handler.step p.server).1, p.handlers.set i (handler.step p.server).2.2⟩ (List.replicate n i) =
      (⟨s', (p.handlers.set i (handler.step p.server).2.2).set i final⟩, out)) :
    p.run (List.replicate (n + 1) i) = (⟨s', p.handlers.set i final⟩,
      (handler.step p.server).2.1.filter (Server.delivers p.server.phase) ++ out) := by
  rw [List.set_set] at hn
  simp only [List.replicate_succ, Pool.run, Pool.step_of_some ht, hn]

/-- A pool can let one handler run to its end before anything else happens. -/
theorem run_undisturbed {i : Nat} (h : handler.Completes s s' out) : ∀ p : Pool, p.server = s →
    p.handlers[i]? = some handler → ∃ n, p.run (List.replicate n i) =
      (⟨s', p.handlers.set i ⟨[], .visit []⟩⟩, out.filter (Server.delivers s.phase)) := by
  induction h with
  | ended s =>
    intro p hs ht
    obtain ⟨hi, hhandler⟩ := List.getElem?_eq_some_iff.1 ht
    refine ⟨0, ?_⟩
    rw [← hhandler, List.set_getElem_self hi, ← hs]
    rfl
  | send h ih =>
    rintro p rfl ht
    obtain ⟨hi, -⟩ := List.getElem?_eq_some_iff.1 ht
    obtain ⟨n, hn⟩ := ih ⟨p.server, p.handlers.set i _⟩ rfl (List.getElem?_set_self hi)
    refine ⟨n + 1, (run_cons_undisturbed ht hn).trans ?_⟩
    rw [← List.filter_append]
    rfl
  | act h ih =>
    rintro p rfl ht
    obtain ⟨hi, -⟩ := List.getElem?_eq_some_iff.1 ht
    obtain ⟨n, hn⟩ := ih ⟨_, p.handlers.set i _⟩ rfl (List.getElem?_set_self hi)
    rw [Stage.step_phase] at hn
    exact ⟨n + 1, run_cons_undisturbed ht hn⟩

/-- **To serve a call as a whole is one of the ways in which its handler can run.** -/
theorem run_call {p : Pool} {i : Nat} {call : Call} (ht : p.handlers[i]? = some handler)
    (hcall : call.handler? d = some handler) (hdistinct : p.server.documents.Distinct) :
    ∃ n, p.run (List.replicate n i) = (⟨(p.server.perform d call).1, p.handlers.set i ⟨[], .visit []⟩⟩,
      (p.server.perform d call).2.filter (Server.delivers p.server.phase)) :=
  run_undisturbed (call_completes hcall hdistinct) p rfl ht

theorem run_notice {p : Pool} {i : Nat} {path : Path} (ht : p.handlers[i]? = some (.notice d path))
    (hdistinct : p.server.documents.Distinct) :
    ∃ n, p.run (List.replicate n i) = (⟨(p.server.noticeAll d [path]).1, p.handlers.set i ⟨[], .visit []⟩⟩,
      (p.server.noticeAll d [path]).2.filter (Server.delivers p.server.phase)) :=
  run_undisturbed (notice_completes hdistinct d path) p rfl ht

end Undisturbed

end DialogueScript
