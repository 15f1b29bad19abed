import DialogueScript.Server.State

/-!
# What a message does

A message of a known method with well-formed parameters makes a call (`Message.call?`); any other message makes none.
Which call is carried out depends on the phase alone. The messages that clients send most are `Message.hello`,
`Message.didOpen` and so on.

* Only `initialize` makes a handshake and only `shutdown` a shutdown; all other calls are `Call.isWork`
  (`call?_initialize`, `call?_isWork`, `method_of_isWork`).
* Before the handshake nothing else is carried out (`handle_uninitialized`), and while the server is active everything
  else is (`handle_active`, `handle_active_cases`). `handle_eq` says it for all phases in one equation.
-/

namespace DialogueScript

/-- Whether a call is served between the handshake and the shutdown. -/
def Call.isWork : Call → Bool
  | .handshake _ | .shutDown => false
  | _ => true

/-- The call that a message of a method makes. It needs an id exactly when the method wants an answer. -/
def Method.call? (method : Method) (m : Message) : Option Call :=
  if m.id.isSome = (method.role == .request) then method.read? m.params else none

/-- The call that a message makes, if any. -/
def Message.call? (m : Message) : Option Call := (Method.named? m.method).bind fun method => method.call? m

/-! ## The messages of a client -/

namespace Message

/-- The client introduces itself, perhaps with the root of its workspace. -/
def hello (root : Option String) : Message :=
  ⟨"initialize", some (.object (("capabilities", .object []) :: (root.map fun uri => ("rootUri", .string uri)).toList)),
    some (.number 1)⟩

/-- The client is ready. -/
def ready : Message := ⟨"initialized", some (.object []), none⟩

/-- A document was opened. -/
def didOpen (uri : String) (version : Int) (text : String) : Message :=
  ⟨"textDocument/didOpen", some (.object [("textDocument", .object [("uri", .string uri),
    ("languageId", .string "dialogue"), ("version", .integer version), ("text", .string text)])]), none⟩

/-- A document was changed; the whole text after each change is given. -/
def didChange (uri : String) (version : Int) (texts : List String) : Message :=
  ⟨"textDocument/didChange", some (.object [
    ("textDocument", .object [("uri", .string uri), ("version", .integer version)]),
    ("contentChanges", .array (texts.map fun text => .object [("text", .string text)]))]), none⟩

/-- A document was closed. -/
def didClose (uri : String) : Message :=
  ⟨"textDocument/didClose", some (.object [("textDocument", .object [("uri", .string uri)])]), none⟩

/-- The client asks for a cap. -/
def wantCap (cap : Int) : Message :=
  ⟨"workspace/didChangeConfiguration",
    some (.object [("settings", .object [("tdls", .object [("maxNumberOfProblems", .integer cap)])])]), none⟩

/-- The client wants the server to shut down. -/
def shutDown : Message := ⟨"shutdown", none, some (.number 2)⟩

/-- The client wants the server to exit. -/
def exit : Message := ⟨"exit", none, none⟩

end Message

/-! ## The calls of the methods -/

section Methods

variable {method : Method} {params : Option Json} {call : Call} {m : Message}

theorem shaped_eq_some {shape : Shape} {call? : Json → Option Call} (h : Call.shaped shape call? params = some call) :
    ∃ v, call? v = some call := by
  simp only [Call.shaped, Option.bind_eq_bind, Option.bind_eq_some_iff] at h
  obtain ⟨_, _, v, _, hv⟩ := h
  exact ⟨v, hv⟩

theorem openedOf?_isWork {v : Json} (h : Call.openedOf? v = some call) : call.isWork = true := by
  simp only [Call.openedOf?, Option.bind_eq_bind, Option.bind_eq_some_iff] at h
  obtain ⟨_, _, _, _, _, _, _, _, hcall⟩ := h
  cases hcall
  rfl

theorem changedOf?_isWork {v : Json} (h : Call.changedOf? v = some call) : call.isWork = true := by
  simp only [Call.changedOf?, Option.bind_eq_bind, Option.bind_eq_some_iff] at h
  obtain ⟨_, _, _, _, _, _, hcall⟩ := h
  cases hlast : (Call.itemsAt "contentChanges" v).getLast? with
  | none =>
    rw [hlast] at hcall
    cases hcall
    rfl
  | some change =>
    rw [hlast] at hcall
    obtain ⟨_, _, hcall⟩ := Option.bind_eq_some_iff.1 hcall
    cases hcall
    rfl

theorem closedOf?_isWork {v : Json} (h : Call.closedOf? v = some call) : call.isWork = true := by
  simp only [Call.closedOf?, Option.bind_eq_bind, Option.bind_eq_some_iff] at h
  obtain ⟨_, _, _, _, hcall⟩ := h
  cases hcall
  rfl

/-- The call of a method with a shape is one of those that are read off a value of that shape. -/
theorem shaped_isWork {shape : Shape} {call? : Json → Option Call} (h : Call.shaped shape call? params = some call)
    (hwork : ∀ v, call? v = some call → call.isWork = true) : call.isWork = true := by
  obtain ⟨v, hv⟩ := shaped_eq_some h
  exact hwork v hv

theorem read?_of_offered (hm : method ∈ offeredMethods) (h : method.read? params = some call) :
    (method.name = "initialize" ∧ ∃ root, call = .handshake root) ∨
      (method.name = "shutdown" ∧ call = .shutDown) ∨ call.isWork = true := by
  simp only [offeredMethods, List.mem_cons, List.not_mem_nil, or_false] at hm
  rcases hm with rfl | rfl | rfl | rfl | rfl | rfl | rfl | rfl | rfl | rfl
  · obtain ⟨v, hv⟩ := shaped_eq_some h
    exact Or.inl ⟨rfl, Call.rootOf v, (Option.some.inj hv).symm⟩
  · exact Or.inr (Or.inr (shaped_isWork h fun _ hv => by cases hv; rfl))
  · refine Or.inr (Or.inl ⟨rfl, ?_⟩)
    cases params with
    | none => exact (Option.some.inj h).symm
    | some _ => cases h
  · exact Or.inr (Or.inr (shaped_isWork h fun _ hv => by cases hv; rfl))
  · exact Or.inr (Or.inr (shaped_isWork h fun _ hv => by cases hv; rfl))
  · exact Or.inr (Or.inr (shaped_isWork h fun _ hv => openedOf?_isWork hv))
  · exact Or.inr (Or.inr (shaped_isWork h fun _ hv => changedOf?_isWork hv))
  · exact Or.inr (Or.inr (shaped_isWork h fun _ hv => closedOf?_isWork hv))
  · refine Or.inr (Or.inr (shaped_isWork h fun v hv => ?_))
    obtain ⟨_, _, rfl⟩ := Option.map_eq_some_iff.1 hv
    rfl
  · exact Or.inr (Or.inr (shaped_isWork h fun _ hv => by cases hv; rfl))

/-- Every known method makes calls of its own kind only. -/
theorem read?_of_mem (hm : method ∈ methods) (h : method.read? params = some call) :
    (method.name = "initialize" ∧ ∃ root, call = .handshake root) ∨
      (method.name = "shutdown" ∧ call = .shutDown) ∨ call.isWork = true := by
  rcases List.mem_append.1 hm with hm | hm
  · rcases List.mem_append.1 hm with hm | hm
    · exact read?_of_offered hm h
    · obtain ⟨name, -, rfl⟩ := List.mem_map.1 hm
      cases h
      exact Or.inr (Or.inr rfl)
  · obtain ⟨⟨name, shape⟩, -, rfl⟩ := List.mem_map.1 hm
    exact Or.inr (Or.inr (shaped_isWork h fun _ hv => by cases hv; rfl))

/-- The method of a name is one of the known ones and has that name. -/
theorem named?_eq_some {name : String} (h : Method.named? name = some method) :
    method ∈ methods ∧ method.name = name :=
  ⟨List.mem_of_find?_eq_some h, by simpa using List.find?_some h⟩

theorem call?_of_method (h : Method.named? m.method = some method) : m.call? = method.call? m := by
  simp only [Message.call?, h, Option.bind_some]

theorem Method.read?_of_call? (h : method.call? m = some call) : method.read? m.params = some call := by
  unfold Method.call? at h
  split at h
  · exact h
  · cases h

/-- The message `initialize` makes a handshake or nothing. -/
theorem call?_initialize (hm : m.method = "initialize") (h : m.call? = some call) : ∃ root, call = .handshake root := by
  have hname : Method.named? m.method = some ⟨"initialize", .request,
      Call.shaped Params.handshake fun v => some (.handshake (Call.rootOf v))⟩ := by
    rw [hm]
    rfl
  rw [call?_of_method hname] at h
  obtain ⟨v, hv⟩ := shaped_eq_some (Method.read?_of_call? h)
  exact ⟨Call.rootOf v, (Option.some.inj hv).symm⟩

/-- Messages other than `initialize` and `shutdown` make calls that are served between these two. -/
theorem call?_isWork (hi : m.method ≠ "initialize") (hs : m.method ≠ "shutdown") (h : m.call? = some call) :
    call.isWork = true := by
  unfold Message.call? at h
  obtain ⟨method, hmethod, hcall⟩ := Option.bind_eq_some_iff.1 h
  obtain ⟨hmem, hname⟩ := named?_eq_some hmethod
  rcases read?_of_mem hmem (Method.read?_of_call? hcall) with ⟨hn, -⟩ | ⟨hn, -⟩ | hwork
  · exact absurd (hname.symm.trans hn) hi
  · exact absurd (hname.symm.trans hn) hs
  · exact hwork

/-- No message but those between handshake and shutdown makes a call that is served there. -/
theorem method_of_isWork (h : m.call? = some call) (hwork : call.isWork = true) :
    m.method ≠ "initialize" ∧ m.method ≠ "shutdown" ∧ m.method ≠ "exit" := by
  refine ⟨fun hm => ?_, fun hm => ?_, fun hm => ?_⟩
  · obtain ⟨root, rfl⟩ := call?_initialize hm h
    cases hwork
  · have hname : Method.named? m.method = some ⟨"shutdown", .request, Call.bare .shutDown⟩ := by
      rw [hm]
      rfl
    rw [call?_of_method hname] at h
    have hread := Method.read?_of_call? h
    cases hparams : m.params with
    | none =>
      rw [hparams] at hread
      cases hread
      cases hwork
    | some v =>
      rw [hparams] at hread
      cases hread
  · have hname : Method.named? m.method = none := by
      rw [hm]
      rfl
    simp only [Message.call?, hname, Option.bind_none] at h
    cases h

end Methods

/-! ## Phases -/

namespace Server

variable {d : Disk} {s : Server} {m : Message}

/-- The server after a message and what it sends unasked, without the reply. -/
def handle (d : Disk) (s : Server) (m : Message) : Server × List Outgoing :=
  ((s.receive d m).1, (s.receive d m).2.1)

/-- Carries out a call, if there is one. -/
def carryOut (d : Disk) (s : Server) : Option Call → Server × List Outgoing
  | none => (s, [])
  | some call => s.perform d call

theorem serve_eq (d : Disk) (s : Server) (method : Method) (m : Message) :
    ((serve d s method m).1, (serve d s method m).2.1) = s.carryOut d (method.call? m) := by
  unfold serve Method.call?
  cases method.role <;> cases m.id <;> cases method.read? m.params <;> rfl

/-- To call a request off does nothing. -/
theorem carryOut_cancel (hm : m.method = "$/cancelRequest") : s.carryOut d m.call? = (s, []) := by
  have hname : Method.named? m.method =
      some ⟨"$/cancelRequest", .notification, fun _ => some .ignored⟩ := by
    rw [hm]
    rfl
  rw [call?_of_method hname]
  unfold Method.call?
  split
  · rfl
  · rfl

/-- A message of an unknown method does nothing, so it is enough to know which of the others are served. -/
theorem handle_of_dispatch {served : Prop} [Decidable served] (hp : s.phase ≠ .exited) (hx : m.method ≠ "exit")
    (hdispatch : ∀ method, Method.named? m.method = some method →
      ((dispatch d s method m).1, (dispatch d s method m).2.1) =
        if served then s.carryOut d (method.call? m) else (s, [])) :
    handle d s m = if served then s.carryOut d m.call? else (s, []) := by
  unfold handle receive
  simp only [hp, if_false, beq_iff_eq, hx]
  cases hmethod : Method.named? m.method with
  | some method =>
    rw [call?_of_method hmethod]
    exact hdispatch method hmethod
  | none =>
    have hcall : m.call? = none := by simp only [Message.call?, hmethod, Option.bind_none]
    rw [hcall]
    have hnothing : (if served then s.carryOut d none else (s, [])) = (s, []) := ite_self (s, [])
    rw [hnothing]
    dsimp only
    split
    · rfl
    · rfl

/-- Before the handshake, only the handshake is carried out. -/
theorem handle_uninitialized (hp : s.phase = .uninitialized) (hx : m.method ≠ "exit") :
    handle d s m = if m.method = "initialize" then s.carryOut d m.call? else (s, []) := by
  refine handle_of_dispatch (by rw [hp]; decide) hx fun method hmethod => ?_
  obtain ⟨-, hname⟩ := named?_eq_some hmethod
  unfold dispatch
  simp only [hname, hp, beq_iff_eq, if_true]
  by_cases hc : m.method = "$/cancelRequest"
  · have hi : m.method ≠ "initialize" := by rw [hc]; decide
    rw [if_pos hc, if_neg hi, serve_eq, ← call?_of_method hmethod]
    exact carryOut_cancel hc
  · rw [if_neg hc]
    by_cases hi : m.method = "initialize"
    · rw [if_pos hi, if_pos hi]
      exact serve_eq d s method m
    · rw [if_neg hi, if_neg hi]
      rfl

/-- While the server is active, every call but a second handshake is carried out. -/
theorem handle_active (hp : s.phase = .active) (hx : m.method ≠ "exit") (hs : m.method ≠ "shutdown") :
    handle d s m = if m.method ≠ "initialize" then s.carryOut d m.call? else (s, []) := by
  refine handle_of_dispatch (by rw [hp]; decide) hx fun method hmethod => ?_
  obtain ⟨-, hname⟩ := named?_eq_some hmethod
  unfold dispatch
  simp only [hname, hp, beq_iff_eq]
  by_cases hc : m.method = "$/cancelRequest"
  · have hi : m.method ≠ "initialize" := by rw [hc]; decide
    rw [if_pos hc, if_pos hi]
    exact serve_eq d s method m
  · rw [if_neg hc]
    by_cases hi : m.method = "initialize"
    · rw [if_pos hi, if_neg (not_not_intro hi)]
      rfl
    · rw [if_neg hi, if_neg hs, if_pos hi]
      exact serve_eq d s method m

/-- While the server is active, a message is a call that is carried out, or nothing happens. -/
theorem handle_active_cases (hp : s.phase = .active) (hx : m.method ≠ "exit") (hs : m.method ≠ "shutdown") :
    (∃ call, m.call? = some call ∧ call.isWork = true ∧ handle d s m = s.perform d call) ∨
      (∀ call, m.call? = some call → call.isWork = false) ∧ handle d s m = (s, []) := by
  rw [handle_active hp hx hs]
  by_cases hi : m.method = "initialize"
  · refine Or.inr ⟨fun call hcall => ?_, if_neg (not_not_intro hi)⟩
    obtain ⟨root, rfl⟩ := call?_initialize hi hcall
    rfl
  · rw [if_pos hi]
    cases hcall : m.call? with
    | none => exact Or.inr ⟨by simp, rfl⟩
    | some call => exact Or.inl ⟨call, rfl, call?_isWork hi hs hcall, rfl⟩

end Server

/-! ## All phases at once -/

/-- The phase in which the call of a message is carried out: an exit and a shutdown count before they are looked at. -/
def Phase.entered (p : Phase) (m : Message) : Phase :=
  if p = .exited ∨ m.method = "exit" then .exited
  else if p = .active ∧ m.method = "shutdown" then .shutDown
  else p

/-- The call that is carried out for a message in a phase. -/
def Phase.served? : Phase → Message → Option Call
  | .uninitialized, m => if m.method = "initialize" then m.call? else none
  | .active, m => if m.method = "initialize" then none else m.call?
  | .shutDown, _ | .exited, _ => none

theorem Phase.call?_of_served? {p : Phase} {m : Message} {call : Call} (h : p.served? m = some call) :
    m.call? = some call := by
  cases p with
  | uninitialized => exact (Option.ite_none_right_eq_some.1 h).2
  | active => exact (Option.ite_none_left_eq_some.1 h).2
  | shutDown | exited => cases h

namespace Server

variable {d : Disk} {s : Server} {m : Message}

/-- After a shutdown nothing is carried out. -/
theorem handle_shutDown (hp : s.phase = .shutDown) (hx : m.method ≠ "exit") : handle d s m = (s, []) := by
  have hnone : handle d s m = if False then s.carryOut d m.call? else (s, []) := by
    refine handle_of_dispatch (by rw [hp]; decide) hx fun method hmethod => ?_
    obtain ⟨-, hname⟩ := named?_eq_some hmethod
    unfold dispatch
    simp only [hname, hp, beq_iff_eq]
    by_cases hc : m.method = "$/cancelRequest"
    · rw [if_pos hc, serve_eq, ← call?_of_method hmethod]
      exact carryOut_cancel hc
    · rw [if_neg hc]
      by_cases hi : m.method = "initialize"
      · rw [if_pos hi]
        rfl
      · rw [if_neg hi]
        rfl
  rw [hnone, if_neg not_false]

/-- The message `shutdown` ends the active phase and then makes its call. -/
theorem handle_active_shutdown (hp : s.phase = .active) (hm : m.method = "shutdown") :
    handle d s m = carryOut d { s with phase := .shutDown } m.call? := by
  have hname : Method.named? "shutdown" = some ⟨"shutdown", .request, Call.bare .shutDown⟩ := rfl
  rw [call?_of_method (by rw [hm]; exact hname), ← serve_eq]
  simp [handle, receive, dispatch, hname, hp, hm]

/-- **What a message does**, in every phase: the phase may end, and then the call is carried out that the phase
allows. -/
theorem handle_eq (d : Disk) (s : Server) (m : Message) :
    handle d s m = carryOut d { s with phase := s.phase.entered m } (s.phase.served? m) := by
  by_cases hx : m.method = "exit"
  · have hcall : m.call? = none := by
      simp only [Message.call?, hx]
      rfl
    have hnone : s.phase.served? m = none := by
      cases s.phase <;> simp [Phase.served?, hcall]
    rw [hnone, Phase.entered, if_pos (Or.inr hx)]
    obtain ⟨startup, phase, documents, layers, root, watcher⟩ := s
    cases phase <;> simp [handle, receive, hx, carryOut]
  · obtain ⟨startup, phase, documents, layers, root, watcher⟩ := s
    cases phase with
    | uninitialized =>
      rw [handle_uninitialized rfl hx]
      simp only [Phase.entered, Phase.served?, hx, reduceCtorEq, false_or, false_and, if_false]
      split <;> rfl
    | active =>
      by_cases hs : m.method = "shutdown"
      · rw [handle_active_shutdown rfl hs]
        simp [Phase.entered, Phase.served?, hs]
      · rw [handle_active rfl hx hs]
        simp only [Phase.entered, Phase.served?, hx, hs, reduceCtorEq, false_or, and_false, if_false, ne_eq, ite_not]
        split <;> rfl
    | shutDown =>
      rw [handle_shutDown rfl hx]
      simp [Phase.entered, Phase.served?, hx, carryOut]
    | exited => simp [handle, receive, Phase.entered, Phase.served?, carryOut]

end Server

end DialogueScript
