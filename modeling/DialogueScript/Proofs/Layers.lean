import Mathlib.Data.List.Basic
import DialogueScript.Settings.Client

/-!
# Settings layers under writes

Three kinds of writes reach the settings layers: the files are read anew, the client sends its settings, and the command
line is set. Each leaves the layers of the others alone, so every layer holds what the last write to it has brought
(`field_written`), whatever came between. The cap that counts is the first positive one (`cap_cases`).
-/

namespace DialogueScript.Layers

/-! ## Writes -/

section Writes

/-- A write to the settings layers. -/
inductive Write where
  /-- The files are read anew; a reading also has values for the other layers, which do not count. -/
  | reload (fresh : Layers)
  /-- The client sends its settings. -/
  | client (value : Json)
  /-- The command line is set. -/
  | cli (cap : Option Nat)

/-- The layers after a write. -/
def Write.apply (l : Layers) : Write → Layers
  | .reload fresh => l.reload fresh
  | .client value => l.withClient value
  | .cli cap => { l with cli := cap }

/-- The layers after some writes. -/
def written (l : Layers) (writes : List Write) : Layers := writes.foldl Write.apply l

/-- The reading that a write brings. -/
def Write.fresh? : Write → Option Layers
  | .reload fresh => some fresh
  | _ => none

/-- The settings of the client that a write brings. -/
def Write.value? : Write → Option Json
  | .client value => some value
  | _ => none

/-- The cap of the command line that a write brings. -/
def Write.cli? : Write → Option (Option Nat)
  | .cli cap => some cap
  | _ => none

/-- The last thing of one kind that some writes bring. -/
def lastOf {α : Type} (part? : Write → Option α) (writes : List Write) : Option α := (writes.filterMap part?).getLast?

/-- The layers of the files: user, workspace and explicit file. -/
def files (l : Layers) : Option Nat × Option Nat × Option Nat := (l.userFile, l.workspaceFile, l.configFile)

variable {α β : Type} (l : Layers)

/-- **The last write counts.** A field that every write either sets or leaves alone holds what the last write to it has
brought. -/
theorem field_written (field : Layers → β) (part? : Write → Option α) (value : α → β)
    (happly : ∀ l w, field (Write.apply l w) = ((part? w).map value).getD (field l)) (writes : List Write) :
    field (l.written writes) = ((lastOf part? writes).map value).getD (field l) := by
  induction writes generalizing l with
  | nil => rfl
  | cons w writes ih =>
    have hrest : field (l.written (w :: writes)) =
        ((lastOf part? writes).map value).getD (field (Write.apply l w)) := ih (Write.apply l w)
    rw [hrest, happly]
    unfold lastOf
    cases hw : part? w with
    | none => simp [hw]
    | some a =>
      rw [List.filterMap_cons_some hw, List.getLast?_cons]
      cases (writes.filterMap part?).getLast? <;> rfl

theorem client_written (writes : List Write) :
    (l.written writes).client = ((lastOf Write.value? writes).map clientCap).getD l.client :=
  field_written l client Write.value? clientCap (fun _ w => by cases w <;> rfl) writes

theorem cli_written (writes : List Write) :
    (l.written writes).cli = (lastOf Write.cli? writes).getD l.cli := by
  have h := field_written l cli Write.cli? id (fun _ w => by cases w <;> rfl) writes
  rwa [Option.map_id_fun, id_eq] at h

theorem files_written (writes : List Write) :
    (l.written writes).files = ((lastOf Write.fresh? writes).map files).getD l.files :=
  field_written l files Write.fresh? files (fun _ w => by cases w <;> rfl) writes

/-- There are no layers but those of the client, the command line and the files. -/
theorem eq_of_fields {l l' : Layers} (hclient : l.client = l'.client) (hcli : l.cli = l'.cli)
    (hfiles : l.files = l'.files) : l = l' := by
  obtain ⟨user, workspace, config, cli, client⟩ := l
  simp only [files, Prod.mk.injEq] at hfiles
  obtain ⟨rfl, rfl, rfl⟩ := hfiles
  cases hclient
  cases hcli
  rfl

end Writes

/-! ## The client layer -/

/-- The client sets its layer with settings that can be read and hold a positive cap, and in no other way. -/
theorem clientCap_eq_some_iff (value : Json) (n : Nat) : clientCap value = some n ↔
    ∃ settings, ClientSettings.ofJson value = .ok settings ∧ settings.tdls = some ⟨some (n : Int)⟩ ∧ 0 < n := by
  unfold clientCap
  cases ClientSettings.ofJson value with
  | error e => simp
  | ok settings =>
    obtain ⟨tdls⟩ := settings
    match tdls with
    | none => simp [ClientSettings.cap?]
    | some ⟨none⟩ => simp [ClientSettings.cap?]
    | some ⟨some m⟩ =>
      simp only [ClientSettings.cap?, Option.ite_none_right_eq_some, Option.some.injEq, Except.ok.injEq,
        exists_eq_left', ClientSection.mk.injEq]
      omega

/-! ## The cap -/

section Cap

variable (l : Layers)

/-- The cap is the first positive one in the order of the sources, or the one for no source at all. -/
theorem cap_cases : (∃ before after, l.ranked = before ++ some l.cap :: after ∧ 0 < l.cap ∧
      ∀ c, some c ∈ before → c = 0) ∨
    (∀ c, some c ∈ l.ranked → c = 0) ∧ l.cap = defaultCap := by
  unfold cap
  rw [List.find?_filterMap]
  cases hfirst : l.ranked.find? fun source => (id source).any (0 < ·) with
  | none =>
    right
    refine ⟨fun c hc => ?_, rfl⟩
    have hnot := List.find?_eq_none.1 hfirst (some c) hc
    simpa using hnot
  | some source =>
    left
    obtain ⟨hpos, before, after, hranked, hbefore⟩ := List.find?_eq_some_iff_append.1 hfirst
    cases source with
    | none => cases hpos
    | some cap =>
      refine ⟨before, after, hranked, by simpa using hpos, fun c hc => ?_⟩
      simpa using hbefore (some c) hc

theorem cap_pos : 0 < l.cap := by
  rcases l.cap_cases with ⟨_, _, _, hpos, _⟩ | ⟨_, hdefault⟩
  · exact hpos
  · rw [hdefault]
    decide

end Cap

/-- **Layers hold the last writes.** After any writes, the layer of the client is what the client sent last (nothing,
if that cannot be read or is not positive), the layer of the command line is what was set last, and the layers of the
files are those of the last reading; so writes that agree in these three end alike, however they are mixed. At every
moment the cap that counts is the first positive one from client to user file, or a hundred, and never zero. -/
theorem layers_hold_last_writes (l : Layers) (writes : List Write) :
    (l.written writes).client = ((lastOf Write.value? writes).map clientCap).getD l.client ∧
      (l.written writes).cli = (lastOf Write.cli? writes).getD l.cli ∧
      (l.written writes).files = ((lastOf Write.fresh? writes).map files).getD l.files ∧
      (∀ value n, clientCap value = some n ↔
        ∃ settings, ClientSettings.ofJson value = .ok settings ∧ settings.tdls = some ⟨some (n : Int)⟩ ∧ 0 < n) ∧
      (∀ others, lastOf Write.value? others = lastOf Write.value? writes →
        lastOf Write.cli? others = lastOf Write.cli? writes →
        lastOf Write.fresh? others = lastOf Write.fresh? writes → l.written others = l.written writes) ∧
      ∀ k, let now := l.written (writes.take k)
        let sources := [now.client, now.cli, now.configFile, now.workspaceFile, now.userFile]
        ((∃ before after, sources = before ++ some now.cap :: after ∧ ∀ c, some c ∈ before → c = 0) ∨
          (∀ c, some c ∈ sources → c = 0) ∧ now.cap = 100) ∧ 0 < now.cap := by
  refine ⟨l.client_written writes, l.cli_written writes, l.files_written writes, clientCap_eq_some_iff,
    fun others hvalue hcli hfresh => ?_, fun k => ⟨?_, cap_pos _⟩⟩
  · apply eq_of_fields
    · rw [client_written, client_written, hvalue]
    · rw [cli_written, cli_written, hcli]
    · rw [files_written, files_written, hfresh]
  · rcases cap_cases (l.written (writes.take k)) with ⟨before, after, hsources, -, hbefore⟩ | hnone
    · exact Or.inl ⟨before, after, hsources, hbefore⟩
    · exact Or.inr hnone

end DialogueScript.Layers
