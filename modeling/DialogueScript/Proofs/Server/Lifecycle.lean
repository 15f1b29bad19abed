import DialogueScript.Proofs.Server.Readings

/-!
# A server at rest

A server works between the handshake and the shutdown. Outside this time it is at rest (`Server.AtRest`): it is not
active, and no watcher runs that could rouse it.

* At rest an exit is all that can happen to a server, unless a call is carried out (`step_at_rest`), and the only such
  call is the handshake of a server that still waits for its client.
* A handshake is always answered with a result (`isResult_handshake`), so before the first such answer the server is at
  rest. A shutdown that is answered with a result has ended the active phase and stopped the watcher, whichever one was
  running (`handle_of_shutdown_granted`), and after that there is no handshake.

Hence a server does nothing before the first handshake and after a shutdown, with one exception
(`server_rests_outside_service`): a server that was shut down still sends the publication of an open document when it is
asked for directly, until the exit (`open_document_published_after_shutdown`).
-/

namespace DialogueScript

/-! ## Answers -/

/-- Whether a reply is the result of a request. -/
def Reply.isResult : Reply → Bool
  | .result _ _ => true
  | .silence | .refusal _ _ | .gone => false

/-- Whether an event is a message of a method. -/
def Event.isOf (method : String) : Event → Bool
  | .message m => m.method == method
  | .publish _ | .change _ => false

namespace Session

/-- Whether a message of a method is answered with a result at an event. -/
def grants (s : Session) (method : String) (e : Event) : Bool := e.isOf method && (s.step e).2.reply.isResult

/-- Whether a message of a method is answered with a result in a course of events. -/
def granted (s : Session) (method : String) (events : List Event) : Bool :=
  (events.zip (s.run events).2).any fun (e, shown) => e.isOf method && shown.reply.isResult

variable (s : Session) (method : String)

theorem granted_cons (e : Event) (events : List Event) :
    s.granted method (e :: events) = (s.grants method e || (s.step e).1.granted method events) := rfl

theorem granted_append (events more : List Event) :
    s.granted method (events ++ more) = (s.granted method events || (s.after events).granted method more) := by
  induction events generalizing s with
  | nil => rfl
  | cons e events ih => rw [List.cons_append, granted_cons, granted_cons, ih, Bool.or_assoc, after_cons]

/-- A course of events changes nothing: documents, settings and root stay as they are. -/
structure Still (s : Session) (events : List Event) : Prop where
  documents : (s.after events).server.documents = s.server.documents
  layers : (s.after events).server.layers = s.server.layers
  root : (s.after events).server.root = s.server.root

end Session

/-! ## Which requests are answered with a result -/

section Answers

variable {d : Disk} {s : Server} {method : Method} {m : Message} {call : Call}

theorem isResult_reply_error (id : Option MessageId) (fault : Fault) :
    (Server.reply id (.error fault)).isResult = false := by
  cases id <;> rfl

/-- A request is answered with a result exactly if it makes a call that is offered. -/
theorem isResult_serve (hrole : method.role = .request) : (Server.serve d s method m).2.2.isResult =
    (method.call? m).any fun call => (Server.answer call).isOk := by
  unfold Server.serve Method.call?
  rw [hrole]
  cases m.id with
  | none => rfl
  | some id =>
    cases method.read? m.params with
    | none => rfl
    | some call => cases h : Server.answer call <;> simp [h, Server.reply, Reply.isResult, Except.isOk, Except.toBool]

/-- The message `shutdown` makes a shutdown or nothing. -/
theorem call?_shutdown (hm : m.method = "shutdown") (hcall : m.call? = some call) : call = .shutDown := by
  obtain ⟨method, hmethod, hread⟩ := Option.bind_eq_some_iff.1 hcall
  obtain ⟨hmem, hname⟩ := named?_eq_some hmethod
  rcases read?_of_mem hmem (Method.read?_of_call? hread) with ⟨hn, -⟩ | ⟨-, hshutdown⟩ | hwork
  · exact absurd (hn.symm.trans (hname.trans hm)) (by decide)
  · exact hshutdown
  · exact absurd hm (method_of_isWork hcall hwork).2.1

/-- Handshake and shutdown are requests. -/
theorem exists_request (hm : m.method = "initialize" ∨ m.method = "shutdown") :
    ∃ method, Method.named? m.method = some method ∧ method.name = m.method ∧ method.role = .request := by
  rcases hm with hm | hm
  all_goals
    rw [hm]
    exact ⟨_, rfl, rfl, rfl⟩

theorem receive_of_named (hp : s.phase ≠ .exited) (hx : m.method ≠ "exit")
    (hmethod : Method.named? m.method = some method) : s.receive d m = Server.dispatch d s method m := by
  simp [Server.receive, hp, hx, hmethod]

/-- A server that waits for its client answers the handshake. -/
theorem isResult_handshake (hp : s.phase = .uninitialized) (hserved : s.phase.served? m = some call) :
    m.method = "initialize" ∧ (s.receive d m).2.2.isResult = true := by
  rw [hp] at hserved
  obtain ⟨hm, hcall⟩ := Option.ite_none_right_eq_some.1 hserved
  refine ⟨hm, ?_⟩
  obtain ⟨root, rfl⟩ := call?_initialize hm hcall
  obtain ⟨method, hmethod, hname, hrole⟩ := exists_request (Or.inl hm)
  rw [hm] at hname
  have hserve : s.receive d m = Server.serve d s method m := by
    rw [receive_of_named (by rw [hp]; decide) (by rw [hm]; decide) hmethod]
    simp [Server.dispatch, hname, hp]
  rw [hserve, isResult_serve hrole, ← call?_of_method hmethod, hcall]
  rfl

/-- A shutdown is answered with a result by an active server, which carries it out. -/
theorem handle_of_shutdown_granted (hm : m.method = "shutdown") (h : (s.receive d m).2.2.isResult = true) :
    s.handle d m = ({ s with phase := .shutDown, watcher := none }, []) := by
  obtain ⟨method, hmethod, hname, hrole⟩ := exists_request (Or.inr hm)
  rw [hm] at hname
  by_cases hexited : s.phase = .exited
  · simp [Server.receive, hexited, Reply.isResult] at h
  rw [receive_of_named hexited (by rw [hm]; decide) hmethod] at h
  by_cases hp : s.phase = .active
  · have hserve : Server.dispatch d s method m = Server.serve d { s with phase := .shutDown } method m := by
      simp [Server.dispatch, hname, hp]
    rw [hserve, isResult_serve hrole, ← call?_of_method hmethod] at h
    cases hcall : m.call? with
    | none =>
      rw [hcall] at h
      cases h
    | some call =>
      obtain rfl := call?_shutdown hm hcall
      rw [Server.handle_active_shutdown hp hm, hcall]
      rfl
  · have hrefused : Server.dispatch d s method m = (s, [], Server.reply m.id (.error (Server.untimely s.phase))) := by
      simp [Server.dispatch, hname, hp]
    rw [hrefused, isResult_reply_error] at h
    cases h

end Answers

/-! ## At rest -/

namespace Server

/-- A server that does no work and cannot be roused by a change on the disk. -/
structure AtRest (s : Server) : Prop where
  inactive : s.phase ≠ .active
  unwatched : s.watcher = none

variable {s : Server} {d : Disk} {m : Message} {uri : Uri}

/-- A server that was told to exit, or not. -/
def dismissed (s : Server) (told : Bool) : Server := { s with phase := if told then .exited else s.phase }

theorem dismissed_dismissed (s : Server) (told told' : Bool) :
    (s.dismissed told).dismissed told' = s.dismissed (told || told') := by
  cases told <;> cases told' <;> rfl

theorem AtRest.dismissed (h : s.AtRest) (told : Bool) : (s.dismissed told).AtRest := by
  refine ⟨?_, h.unwatched⟩
  cases told with
  | false => exact h.inactive
  | true => exact Phase.noConfusion

/-- A server that has seen its client is never without one again. -/
theorem dismissed_ne_uninitialized (h : s.phase ≠ .uninitialized) (told : Bool) :
    (s.dismissed told).phase ≠ .uninitialized := by
  cases told with
  | false => exact h
  | true => exact Phase.noConfusion

/-- The publication that an event asks for directly. -/
def asked (s : Server) : Event → List Outgoing
  | .publish uri => s.publish uri
  | .message _ | .change _ => []

/-- What is asked of a server at rest reaches the client after a shutdown only. -/
theorem AtRest.filter_publish (h : s.AtRest) (uri : Uri) :
    (s.publish uri).filter (delivers s.phase) = if s.phase = .shutDown then s.publish uri else [] := by
  have hphase := h.inactive
  have hdropped : ∀ p, p = .uninitialized ∨ p = .exited → (s.publish uri).filter (delivers p) = [] := by
    intro p hp
    rw [List.filter_eq_nil_iff]
    intro o ho
    obtain ⟨document, -, rfl⟩ := Option.map_eq_some_iff.1 (Option.mem_toList.1 ho)
    rcases hp with rfl | rfl <;> exact Bool.false_ne_true
  cases hp : s.phase with
  | active => exact absurd hp hphase
  | uninitialized => exact hdropped _ (Or.inl rfl)
  | exited => exact hdropped _ (Or.inr rfl)
  | shutDown =>
    rw [if_pos rfl, List.filter_eq_self]
    intro o _
    cases o <;> rfl

/-- A message that makes no call may end a phase and does nothing else. -/
theorem handle_of_not_served (h : s.phase.served? m = none) :
    s.handle d m = ({ s with phase := s.phase.entered m }, []) := by
  rw [handle_eq, h]
  rfl

/-- Outside the active phase only an exit ends a phase. -/
theorem entered_of_inactive {p : Phase} (h : p ≠ .active) (m : Message) :
    p.entered m = if (m.method == "exit") = true then .exited else p := by
  unfold Phase.entered
  cases p with
  | active => exact absurd rfl h
  | uninitialized | shutDown | exited => by_cases hm : m.method = "exit" <;> simp [hm]

end Server

namespace Session

variable {s : Session} {e : Event}

/-- A server at rest carries out nothing but a handshake, and that is answered with a result. -/
theorem served?_at_rest (h : s.server.AtRest)
    (hno : s.server.phase ≠ .uninitialized ∨ s.grants "initialize" e = false) : s.served? e = none := by
  cases e with
  | publish | change => rfl
  | message m =>
    cases hp : s.server.phase with
    | active => exact absurd hp h.inactive
    | shutDown | exited =>
      unfold served?
      rw [hp]
      rfl
    | uninitialized =>
      have hgrants : s.grants "initialize" (.message m) = false := hno.resolve_left (not_not_intro hp)
      cases hserved : s.served? (.message m) with
      | none => rfl
      | some call =>
        obtain ⟨hm, hresult⟩ := isResult_handshake (d := s.disk) hp hserved
        have hyes : s.grants "initialize" (.message m) = true :=
          Bool.and_eq_true_iff.2 ⟨beq_iff_eq.2 hm, hresult⟩
        rw [hyes] at hgrants
        cases hgrants

/-- **At rest an exit is all that can happen**, and all that is sent is what is asked for directly after a shutdown. -/
theorem step_at_rest (h : s.server.AtRest)
    (hno : s.server.phase ≠ .uninitialized ∨ s.grants "initialize" e = false) :
    (s.step e).1.server = s.server.dismissed (e.isOf "exit") ∧
      (s.step e).2.out = if s.server.phase = .shutDown then s.server.asked e else [] := by
  have hserved := served?_at_rest h hno
  cases e with
  | message m =>
    have hhandle : s.server.handle s.disk m = _ := Server.handle_of_not_served hserved
    rw [Server.entered_of_inactive h.inactive] at hhandle
    refine ⟨congrArg Prod.fst hhandle, ?_⟩
    have hout : (s.server.handle s.disk m).2 = [] := congrArg Prod.snd hhandle
    show (s.server.handle s.disk m).2.filter _ = _
    rw [hout]
    exact (ite_self _).symm
  | publish uri => exact ⟨rfl, h.filter_publish uri⟩
  | change c =>
    have hstep : s.step (.change c) = (⟨s.server, s.disk.apply c⟩, ⟨[], .silence⟩) := by
      simp [step, react, h.unwatched]
    rw [hstep]
    exact ⟨rfl, (ite_self _).symm⟩

/-- **A course of events at rest** does nothing to the server but that it may exit, as long as no handshake is answered
with a result. A server that has seen its client before never answers one. -/
theorem after_at_rest (events : List Event) (h : s.server.AtRest)
    (hno : s.server.phase ≠ .uninitialized ∨ s.granted "initialize" events = false) :
    (s.after events).server = s.server.dismissed (events.any (Event.isOf "exit")) := by
  induction events generalizing s with
  | nil => rfl
  | cons e events ih =>
    rw [granted_cons, Bool.or_eq_false_iff] at hno
    obtain ⟨hserver, -⟩ := step_at_rest h (hno.imp_right And.left)
    have hrest : (s.step e).1.server.AtRest := by
      rw [hserver]
      exact h.dismissed _
    have hno' : (s.step e).1.server.phase ≠ .uninitialized ∨ (s.step e).1.granted "initialize" events = false := by
      refine hno.imp (fun hphase => ?_) And.right
      rw [hserver]
      exact Server.dismissed_ne_uninitialized hphase _
    rw [after_cons, ih hrest hno', hserver, Server.dismissed_dismissed, List.any_cons]

/-- Such a course changes nothing, and the server is at rest after it. -/
theorem still_at_rest {events : List Event} (h : s.server.AtRest)
    (hno : s.server.phase ≠ .uninitialized ∨ s.granted "initialize" events = false) :
    s.Still events ∧ (s.after events).server.AtRest := by
  have hserver := after_at_rest events h hno
  refine ⟨⟨?_, ?_, ?_⟩, ?_⟩
  all_goals rw [hserver]
  · rfl
  · rfl
  · rfl
  · exact h.dismissed _

/-- What reaches the client at an event in the course of others. -/
theorem out_at_rest (before after : List Event) (h : s.server.AtRest)
    (hno : s.server.phase ≠ .uninitialized ∨ s.granted "initialize" (before ++ e :: after) = false) :
    ((s.after before).step e).2.out =
      if (s.after before).server.phase = .shutDown then s.server.asked e else [] := by
  rw [granted_append, granted_cons, Bool.or_eq_false_iff, Bool.or_eq_false_iff] at hno
  have hserver := after_at_rest before h (hno.imp_right And.left)
  obtain ⟨-, hrest⟩ := still_at_rest h (hno.imp_right And.left)
  have hnone : (s.after before).server.phase ≠ .uninitialized ∨ (s.after before).grants "initialize" e = false := by
    refine hno.imp (fun hphase => ?_) fun hnot => hnot.2.1
    rw [hserver]
    exact Server.dismissed_ne_uninitialized hphase _
  have hasked : (s.after before).server.asked e = s.server.asked e := by
    rw [hserver]
    cases e <;> rfl
  rw [(step_at_rest hrest hnone).2, hasked]

/-! ## After an exit or a shutdown -/

/-- An exit is for good, and a server that has exited answers nothing. -/
theorem step_exited (h : s.server.phase = .exited) :
    (s.step e).1.server.phase = .exited ∧ (s.step e).2.reply.isResult = false := by
  cases e with
  | message m => simp [step, react, Server.receive, h, Reply.isResult]
  | publish uri => exact ⟨h, rfl⟩
  | change c =>
    refine ⟨by rw [step_change]; exact (Server.noticeAll_keeps _ _ _).1.trans h, ?_⟩
    unfold step react
    cases s.server.watcher <;> rfl

theorem granted_of_exited (h : s.server.phase = .exited) (method : String) (events : List Event) :
    s.granted method events = false := by
  induction events generalizing s with
  | nil => rfl
  | cons e events ih =>
    obtain ⟨hphase, hreply⟩ := step_exited (e := e) h
    rw [granted_cons, ih hphase, grants, hreply, Bool.and_false, Bool.or_false]

theorem phase_of_exit (h : e.isOf "exit" = true) : (s.step e).1.server.phase = .exited := by
  cases e with
  | publish | change => cases h
  | message m =>
    have hm : m.method = "exit" := beq_iff_eq.1 h
    by_cases hp : s.server.phase = .exited
    · exact (step_exited hp).1
    · simp [step, react, Server.receive, hp, hm]

/-- **A shutdown that is answered with a result puts the server to rest.** It stays shut down until it exits. -/
theorem at_rest_of_shutdown {events : List Event} (h : s.granted "shutdown" events = true) :
    (s.after events).server.AtRest ∧
      (s.after events).server.phase = if events.any (Event.isOf "exit") = true then .exited else .shutDown := by
  induction events generalizing s with
  | nil => cases h
  | cons e events ih =>
    rw [granted_cons, Bool.or_eq_true_iff] at h
    rw [after_cons, List.any_cons]
    rcases h with hfirst | hlater
    · obtain ⟨hmethod, hresult⟩ := Bool.and_eq_true_iff.1 hfirst
      cases e with
      | publish | change => cases hmethod
      | message m =>
        have hm : m.method = "shutdown" := beq_iff_eq.1 hmethod
        have hserver : (s.step (.message m)).1.server = { s.server with phase := .shutDown, watcher := none } :=
          congrArg Prod.fst (handle_of_shutdown_granted hm hresult)
        have hrest : (s.step (.message m)).1.server.AtRest := by
          rw [hserver]
          exact ⟨Phase.noConfusion, rfl⟩
        have hexit : (Event.message m).isOf "exit" = false := by simp [Event.isOf, hm]
        rw [after_at_rest events hrest (Or.inl (by rw [hserver]; exact Phase.noConfusion)), hexit, Bool.false_or]
        exact ⟨hrest.dismissed _, by rw [hserver]; rfl⟩
    · have hexit : e.isOf "exit" = false := by
        -- nothing is granted after an exit
        cases hexit : e.isOf "exit" with
        | false => rfl
        | true =>
          rw [granted_of_exited (phase_of_exit hexit)] at hlater
          cases hlater
      rw [hexit, Bool.false_or]
      exact ih hlater

end Session

/-- **A server does nothing outside its service**, in every session. Before the first handshake that is answered with a
result, events change neither documents nor settings nor root, and nothing is sent to the client: messages of every
method, direct publications and changes of any file. After a shutdown that is answered with a result the same is true
with one exception: until the exit, the publication of an open document is sent when it is asked for directly. -/
theorem server_rests_outside_service (startup : Startup) (d : Disk) (events more : List Event) :
    let start := Session.start startup d
    let s := start.after events
    (start.granted "initialize" (events ++ more) = false → s.Still more ∧
      ∀ before e after, more = before ++ e :: after → ((s.after before).step e).2.out = []) ∧
    (start.granted "shutdown" events = true → s.Still more ∧
      ∀ before e after, more = before ++ e :: after → ((s.after before).step e).2.out =
        if (events ++ before).any (Event.isOf "exit") = true then [] else s.server.asked e) := by
  intro start s
  have hafter : ∀ before, s.after before = start.after (events ++ before) :=
    fun before => (start.after_append events before).symm
  constructor
  · intro hearly
    have hstart : start.server.AtRest := ⟨Phase.noConfusion, rfl⟩
    have hparts := hearly
    rw [Session.granted_append, Bool.or_eq_false_iff] at hparts
    obtain ⟨-, hrest⟩ := Session.still_at_rest hstart (Or.inr hparts.1)
    refine ⟨(Session.still_at_rest hrest (Or.inr hparts.2)).1, ?_⟩
    rintro before e after rfl
    rw [← List.append_assoc] at hearly
    have hnone := hearly
    rw [Session.granted_append, Bool.or_eq_false_iff] at hnone
    rw [hafter, Session.out_at_rest _ _ hstart (Or.inr hearly),
      Session.after_at_rest (events ++ before) hstart (Or.inr hnone.1)]
    cases (events ++ before).any (Event.isOf "exit") <;> rfl
  · intro hlate
    obtain ⟨hrest, hphase⟩ := Session.at_rest_of_shutdown hlate
    have hno : s.server.phase ≠ .uninitialized := by
      rw [hphase]
      split <;> exact Phase.noConfusion
    refine ⟨(Session.still_at_rest hrest (Or.inl hno)).1, ?_⟩
    rintro before e after rfl
    have hlater : start.granted "shutdown" (events ++ before) = true := by
      rw [Session.granted_append, hlate, Bool.true_or]
    rw [Session.out_at_rest before after hrest (Or.inl hno), hafter, (Session.at_rest_of_shutdown hlater).2]
    split <;> rfl

/-! ## The same events at different times -/

section AnyTime

/-- **A shutdown does not silence everything.** It is answered with a result, and then the document that is still open
is published when it is asked for. -/
theorem open_document_published_after_shutdown :
    let events := [.message (.hello none), .message (.didOpen "file:///a" 1 "- x"), .message .shutDown]
    bareSession.granted "shutdown" events = true ∧
      ((bareSession.after events).step (.publish (rootFile "a"))).2.out =
        [.publish (rootFile "a") (some 1) [missingColonAt 0]] := by
  decide +kernel

/-- What anyone may try at any time: a settings file is made, the client is ready, opens a document, asks for a cap, and
the document is to be published. -/
def anytimeEvents : List Event :=
  [.change (.put (placeOf ["ws", ".tdls.toml"]) (capFile "5")), .message .ready,
    .message (.didOpen "file:///a" 2 "- y"), .message (.wantCap 8), .publish (rootFile "a")]

/-- A client is ready twice, so that one watcher replaces another, opens a document, and shuts the server down. -/
def servedEvents : List Event :=
  [.message (.hello (some "file:///ws")), .message .ready, .message .ready, .message (.didOpen "file:///a" 1 "- : x"),
    .message .shutDown]

/-- The same events are noticed before the shutdown. Nothing comes of them in front of the handshake, and after the
shutdown nothing but the publication of the document as it was then; after the exit that fails to appear, too. -/
theorem anytimeEvents_rest_outside_service :
    let start := Session.start settingsStartup settingsDisk
    let s := start.after servedEvents
    let late := anytimeEvents ++ .message .exit :: anytimeEvents
    (start.granted "initialize" anytimeEvents = false ∧ start.Still anytimeEvents) ∧
      (start.granted "shutdown" servedEvents = true ∧ s.Still late ∧
        ((s.after anytimeEvents.dropLast).step (.publish (rootFile "a"))).2.out =
          [.publish (rootFile "a") (some 1) [missingCharacterAt 0 2]] ∧
        ((s.after late.dropLast).step (.publish (rootFile "a"))).2.out = []) ∧
      ((start.after servedEvents.dropLast).run anytimeEvents).2.map (fun shown => shown.out.length) =
        [3, 1, 1, 1, 1] := by
  intro start s late
  have hearly : start.granted "initialize" anytimeEvents = false := by decide +kernel
  have hlate : start.granted "shutdown" servedEvents = true := by decide +kernel
  obtain ⟨hstill, -⟩ := (server_rests_outside_service settingsStartup settingsDisk [] anytimeEvents).1 hearly
  obtain ⟨hstill', hout⟩ := (server_rests_outside_service settingsStartup settingsDisk servedEvents late).2 hlate
  refine ⟨⟨hearly, hstill⟩, ⟨hlate, hstill', ?_, ?_⟩, by decide +kernel⟩
  · have hasked := hout anytimeEvents.dropLast (.publish (rootFile "a")) (.message .exit :: anytimeEvents) rfl
    exact hasked.trans (by decide +kernel)
  · have hgone := hout late.dropLast (.publish (rootFile "a")) [] rfl
    exact hgone.trans (by decide +kernel)

end AnyTime

end DialogueScript
