import Mathlib.Logic.Function.Iterate
import DialogueScript.Proofs.Server.Readings

/-!
# Extra reloads

A watcher may report one change of a file several times, and the server reads its settings anew at each report. Nothing
is lost by that: what a reload does is known from the settings files, the root and the layers that no file sets, and a
reload changes none of these. So a reload after a reload does and says the same again (`reload_reload`), and so does any
number of them (`reload_iterate`).

That each open document is published once, and no other, needs that no URI has two documents. Every step keeps that
(`step_distinct`), so it holds in every session (`after_distinct`).
-/

namespace DialogueScript

/-! ## One document for each URI -/

section Distinct

theorem Server.perform_distinct {s : Server} (h : s.documents.Distinct) (d : Disk) (call : Call) :
    (s.perform d call).1.documents.Distinct := by
  cases call with
  | handshake | shutDown => exact h
  | _ => exact (Server.perform_keeps rfl h d).2

theorem Session.step_distinct {s : Session} (h : s.server.documents.Distinct) (e : Event) :
    (s.step e).1.server.documents.Distinct := by
  cases e with
  | message m =>
    rw [step_message, Server.handle_eq]
    have hentered : { s.server with phase := s.server.phase.entered m }.documents.Distinct := h
    cases s.server.phase.served? m with
    | none => exact hentered
    | some call => exact Server.perform_distinct hentered s.disk call
  | publish uri => exact h
  | change c =>
    rw [step_change]
    simp only [(Server.noticeAll_keeps _ _ _).2]
    exact h

theorem Session.after_distinct {s : Session} (h : s.server.documents.Distinct) (events : List Event) :
    (s.after events).server.documents.Distinct := by
  induction events generalizing s with
  | nil => exact h
  | cons e events ih => exact ih (step_distinct h e)

end Distinct

/-! ## Reloads -/

namespace Server

variable (d : Disk) (s : Server)

/-- The server after a number of reloads from one disk. -/
def reloaded (k : Nat) : Server := (fun s : Server => (s.reload d).1)^[k] s

/-- **A second reload does and says what the first one did.** -/
theorem reload_reload : (s.reload d).1.reload d = s.reload d := rfl

theorem reloaded_succ (k : Nat) : s.reloaded d (k + 1) = (s.reload d).1 := by
  have hfixed : ((s.reload d).1.reload d).1 = (s.reload d).1 := by rw [reload_reload]
  unfold reloaded
  rw [Function.iterate_succ_apply]
  exact Function.iterate_fixed hfixed k

/-- However many reloads went before, a reload does and says the same. -/
theorem reload_iterate (k : Nat) : (s.reloaded d k).reload d = s.reload d := by
  cases k with
  | zero => rfl
  | succ k => rw [reloaded_succ, reload_reload]

/-- Reports of changes are so many reloads, whatever the paths. -/
theorem noticeAll_eq_reloaded (paths : List Path) : (s.noticeAll d paths).1 = s.reloaded d paths.length := by
  induction paths generalizing s with
  | nil => rfl
  | cons p paths ih => exact ih (s.reload d).1

/-- An active server is heard, and a reload leaves it active. -/
theorem filter_reload {s : Server} (h : s.phase = .active) :
    (s.reload d).2.filter (delivers (s.reload d).1.phase) = (s.reload d).2 := by
  have hphase : (s.reload d).1.phase = .active := h
  rw [hphase, List.filter_eq_self]
  exact fun o _ => delivers_active o

theorem publicationsFor_reload {s : Server} (h : s.documents.Distinct) (uri : Uri) :
    publicationsFor uri (s.reload d).2 =
      ((s.documents.get? uri).map ((s.reload d).1.publication uri)).toList :=
  publicationsFor_publishAll (s.reload d).1 uri h

end Server

/-- **Extra reloads are harmless.** On an active server and an unchanged disk, any number of reloads, one at least, ends
as one does: the documents and the root are those from before, and the layers are those of a single reload; after the
first reload nothing changes any more. Each reload sends one publication for each open document, of its problems under
the cap that counts then, and none for any other URI; all of them send the same. So a change that is reported under any
number of paths is as good as one reported once. -/
theorem extra_reloads_are_harmless (startup : Startup) (d : Disk) (events : List Event)
    (hactive : ((Session.start startup d).after events).server.phase = .active) {n : Nat} (hn : 1 ≤ n) :
    let s := (Session.start startup d).after events
    let state (k : Nat) := s.server.reloaded s.disk k
    let sent (k : Nat) := ((state k).reload s.disk).2.filter (Server.delivers (state (k + 1)).phase)
    state n = state 1 ∧ (state n).documents = s.server.documents ∧ (state n).root = s.server.root ∧
      (state n).layers = s.server.layers.reload (startup.load s.disk s.server.root) ∧
      (∀ k, 1 ≤ k → state (k + 1) = state k) ∧
      (∀ k uri document, s.server.documents.get? uri = some document → publicationsFor uri (sent k) =
        [.publish uri (some document.version) (validate document.content (state n).layers.cap)]) ∧
      (∀ k uri, s.server.documents.get? uri = none → publicationsFor uri (sent k) = []) ∧
      (∀ k, sent (k + 1) = sent k) ∧
      ∀ paths, paths ≠ [] → (s.server.noticeAll s.disk paths).1 = state n := by
  intro s state sent
  have hstate : ∀ k, 1 ≤ k → state k = (s.server.reload s.disk).1 := by
    intro k hk
    obtain ⟨k, rfl⟩ := Nat.exists_eq_add_of_le' hk
    exact s.server.reloaded_succ s.disk k
  have hsent : ∀ k, sent k = (s.server.reload s.disk).2 := by
    intro k
    have hnext : state (k + 1) = (s.server.reload s.disk).1 := hstate (k + 1) (Nat.le_add_left 1 k)
    simp only [sent, hnext, state, Server.reload_iterate]
    exact Server.filter_reload s.disk hactive
  obtain ⟨_, _, -, -, -, hholds⟩ := Session.holds_after (Session.start_holds startup d) events
  have hstartup : s.server.startup = startup := hholds.startup_eq
  have hdistinct : s.server.documents.Distinct :=
    Session.after_distinct (s := Session.start startup d) List.nodup_nil events
  have hpublished : ∀ k uri, publicationsFor uri (sent k) =
      ((s.server.documents.get? uri).map ((state n).publication uri)).toList := by
    intro k uri
    rw [hsent k, hstate n hn]
    exact Server.publicationsFor_reload s.disk hdistinct uri
  refine ⟨?_, ?_, ?_, ?_, fun k hk => ?_, fun k uri document hopen => ?_, fun k uri hclosed => ?_, fun k => ?_,
    fun paths hpaths => ?_⟩
  · rw [hstate n hn, hstate 1 le_rfl]
  · rw [hstate n hn]
    rfl
  · rw [hstate n hn]
    rfl
  · rw [hstate n hn, ← hstartup]
    rfl
  · rw [hstate (k + 1) (Nat.le_add_left 1 k), hstate k hk]
  · rw [hpublished, hopen]
    rfl
  · rw [hpublished, hclosed]
    rfl
  · rw [hsent, hsent]
  · rw [Server.noticeAll_eq_reloaded, hstate n hn]
    exact hstate paths.length (List.length_pos_iff.2 hpaths)

/-- Two documents are open when a settings file is made that nobody watches. The first reload finds it, and nothing
comes of the others. -/
theorem unreported_file_reloads_are_harmless :
    let s := emptyWorkspace.after
      [.message (.hello (some "file:///ws")), .message (.didOpen "file:///a" 3 "- : x\n- y"),
        .message (.didOpen "file:///b" 1 "z"), settingsFileMade]
    s.server.phase = .active ∧ s.server.layers.cap = 100 ∧ (s.server.reloaded s.disk 3).layers.cap = 5 ∧
      s.server.reloaded s.disk 3 = s.server.reloaded s.disk 1 := by
  intro s
  have hactive : s.server.phase = .active := by decide +kernel
  exact ⟨hactive, by decide +kernel, by decide +kernel,
    (extra_reloads_are_harmless _ _ _ hactive (by decide : 1 ≤ 3)).1⟩

end DialogueScript
