import Mathlib.Algebra.Group.Int.Defs
import DialogueScript.Proofs.Disk.Ways
import DialogueScript.Proofs.Startup

/-!
# Settings files that cannot be loaded

A settings file that is there may still be no use: it may be a directory, no text, no TOML, or set a cap that is none
(`Broken`). These are all the ways in which loading it fails (`load_error_iff`). Such a file sets no cap, and neither
does a missing one, so it may as well be removed (`cap?_clear_broken`). Each layer is read from its own file, whatever
becomes of the other files; one file may serve several layers.

This needs settings files that do not lie below each other: a directory in the place of a settings file is removed with
all that is in it, and a path that passes it leads nowhere afterwards.
-/

namespace DialogueScript

/-! ## Broken files -/

namespace FileSettings

/-- A settings file that is there and cannot be loaded. -/
inductive Broken (d : Disk) (p : Path) : Prop where
  /-- It is a directory. -/
  | directory (hfind : d.find? p = some .directory)
  /-- It is no text. -/
  | notText {content : ByteArray} (hfind : d.find? p = some (.file content)) (htext : String.fromUTF8? content = none)
  /-- It is no TOML. -/
  | notToml {content : ByteArray} {text : String} (hfind : d.find? p = some (.file content))
      (htext : String.fromUTF8? content = some text) (htoml : Toml.parse? text.toList = none)
  /-- The cap it sets is no integer of 64 bits without sign. -/
  | wrongCap {content : ByteArray} {text : String} {entries : Toml.Entries} {value : Toml.Value}
      (hfind : d.find? p = some (.file content)) (htext : String.fromUTF8? content = some text)
      (htoml : Toml.parse? text.toList = some entries)
      (hvalue : Toml.get? "max_number_of_problems" entries = some value)
      (hcap : ∀ n : Int, value = .integer n → n < 0 ∨ 2 ^ 64 ≤ n)

variable {d : Disk} {p : Path}

theorem parse?_eq_none_of_value {text : List Char} {entries : Toml.Entries} {value : Toml.Value}
    (htoml : Toml.parse? text = some entries) (hvalue : Toml.get? "max_number_of_problems" entries = some value) :
    parse? text = none ↔ ∀ n : Int, value = .integer n → n < 0 ∨ 2 ^ 64 ≤ n := by
  simp only [parse?, htoml, Option.bind_eq_bind, Option.bind_some, hvalue]
  cases value with
  | integer n =>
    have hpow : Int.pow 2 64 = 2 ^ 64 := rfl
    have hrange : (decide (0 ≤ n) && decide (n < Int.pow 2 64)) = true ↔ ¬ (n < 0 ∨ 2 ^ 64 ≤ n) := by
      rw [Bool.and_eq_true, decide_eq_true_eq, decide_eq_true_eq, hpow]
      omega
    simp only [hrange, ite_eq_right_iff, reduceCtorEq, imp_false, not_not, Toml.Value.integer.injEq, forall_eq']
  | _ => simp

/-- The settings of a text cannot be read if it is no TOML or sets a cap that is none. -/
theorem parse?_eq_none_iff {text : List Char} : parse? text = none ↔ Toml.parse? text = none ∨
    ∃ entries value, Toml.parse? text = some entries ∧ Toml.get? "max_number_of_problems" entries = some value ∧
      ∀ n : Int, value = .integer n → n < 0 ∨ 2 ^ 64 ≤ n := by
  cases htoml : Toml.parse? text with
  | none => simp [parse?, htoml]
  | some entries =>
    cases hvalue : Toml.get? "max_number_of_problems" entries with
    | none => simp [parse?, htoml, hvalue]
    | some value =>
      rw [parse?_eq_none_of_value htoml hvalue]
      constructor
      · intro hcap
        exact Or.inr ⟨entries, value, rfl, hvalue, hcap⟩
      · rintro (hnone | ⟨entries', value', hentries, hvalue', hcap⟩)
        · cases hnone
        · cases hentries
          rw [hvalue] at hvalue'
          cases hvalue'
          exact hcap

/-- **A file cannot be loaded exactly if it is there and broken.** -/
theorem load_error_iff : (∃ e, load d p = .error e) ↔ Broken d p := by
  constructor
  · rintro ⟨e, he⟩
    unfold load Disk.readText at he
    cases hfind : d.find? p with
    | none => simp [hfind] at he
    | some entry =>
      cases entry with
      | directory => exact .directory hfind
      | file content =>
        cases htext : String.fromUTF8? content with
        | none => exact .notText hfind htext
        | some text =>
          cases hparse : parse? text.toList with
          | some settings => simp [hfind, htext, hparse] at he
          | none =>
            rcases parse?_eq_none_iff.1 hparse with htoml | ⟨entries, value, htoml, hvalue, hcap⟩
            · exact .notToml hfind htext htoml
            · exact .wrongCap hfind htext htoml hvalue hcap
  · have hmalformed : ∀ {content text}, d.find? p = some (.file content) → String.fromUTF8? content = some text →
        parse? text.toList = none → load d p = .error (.malformed p) := by
      intro content text hfind htext hparse
      simp [load, Disk.readText, hfind, htext, hparse]
    intro h
    cases h with
    | directory hfind => exact ⟨.unreadable p, by simp [load, Disk.readText, hfind]⟩
    | notText hfind htext => exact ⟨.unreadable p, by simp [load, Disk.readText, hfind, htext]⟩
    | notToml hfind htext htoml =>
      exact ⟨.malformed p, hmalformed hfind htext (parse?_eq_none_iff.2 (Or.inl htoml))⟩
    | wrongCap hfind htext htoml hvalue hcap =>
      exact ⟨.malformed p, hmalformed hfind htext (parse?_eq_none_iff.2 (Or.inr ⟨_, _, htoml, hvalue, hcap⟩))⟩

theorem Broken.cap?_eq_none (h : Broken d p) : cap? d p = none := by
  obtain ⟨e, he⟩ := load_error_iff.2 h
  unfold cap?
  rw [he]

/-! ## Removing broken files -/

/-- What a file that sets a cap says is at the end of its path. -/
theorem cap?_eq_target {e : Entry} (h : d.find? p = some e) : cap? d p = (d.get? (d.target p)).bind Entry.cap? := by
  cases hl : d.locate? p with
  | none => simp [Disk.find?, hl] at h
  | some l => exact cap?_of_find? (Disk.find?_eq hl)

theorem Broken.exists_find? (h : Broken d p) : ∃ e, d.find? p = some e := by
  cases h with
  | directory hfind | notText hfind | notToml hfind | wrongCap hfind => exact ⟨_, hfind⟩

/-- **A broken file may as well be removed.** A file that sets a cap stays if it does not lie below the removed ones: it
is none of them, and they are not where it is. A file that sets none does not set one when there is less on the disk. -/
theorem cap?_clear_broken {broken : List Path} (hbroken : ∀ g ∈ broken, Broken d g)
    (hapart : ∀ g ∈ broken, p ≠ g → ¬ d.LiesBelow p (d.target g)) :
    cap? (d.clear (broken.map d.target)) p = cap? d p := by
  cases hcap : cap? d p with
  | none =>
    cases hfind : (d.clear (broken.map d.target)).find? p with
    | none =>
      rw [cap?_of_find? hfind]
      rfl
    | some e =>
      have hfind' : d.find? p = some e :=
        Disk.find?_mono (Disk.workingDirectory_clear d _) (fun _ _ => Disk.get?_of_get?_clear) hfind
      rw [cap?_of_find? hfind, ← hcap, cap?_of_find? hfind']
  | some n =>
    obtain ⟨e, he⟩ : ∃ e, d.find? p = some e := by
      cases hfind : d.find? p with
      | none =>
        rw [cap?_of_find? hfind] at hcap
        cases hcap
      | some e => exact ⟨e, rfl⟩
    have hne : ∀ g ∈ broken, p ≠ g := by
      rintro g hg rfl
      rw [(hbroken p hg).cap?_eq_none] at hcap
      cases hcap
    have hend : d.target p ∉ broken.map d.target := by
      intro hmem
      obtain ⟨g, hg, htarget⟩ := List.mem_map.1 hmem
      obtain ⟨e', he'⟩ := (hbroken g hg).exists_find?
      have hsame := cap?_eq_target he'
      rw [htarget, ← cap?_eq_target he, hcap, (hbroken g hg).cap?_eq_none] at hsame
      cases hsame
    have hbelow : ∀ l ∈ broken.map d.target, ¬ d.LiesBelow p l := by
      intro l hl
      obtain ⟨g, hg, rfl⟩ := List.mem_map.1 hl
      exact hapart g hg (hne g hg)
    rw [cap?_of_find? (Disk.find?_clear hbelow hend), ← cap?_of_find? rfl, hcap]

end FileSettings

/-! ## Layers -/

section Layers

variable {s : Startup} {root : Option Path} {d : Disk}

/-- **A broken settings file is as good as a missing one.** For settings files that do not lie below each other: loading
a file fails exactly if it is there and broken. The layers are the same when any broken ones of the settings files are
removed. And a change at one place, be it of a settings file or one that makes or removes no directory, changes no layer
but those whose file is at that place. -/
theorem broken_files_count_as_missing (hapart : ∀ f ∈ s.watchedFiles root, ∀ g ∈ s.watchedFiles root, f ≠ g →
      ¬ d.LiesBelow f (d.target g)) :
    (∀ p, (∃ e, FileSettings.load d p = .error e) ↔ FileSettings.Broken d p) ∧
      (∀ broken : List Path, (∀ g ∈ broken, g ∈ s.watchedFiles root ∧ FileSettings.Broken d g) →
        s.load (d.clear (broken.map d.target)) root = s.load d root) ∧
      ∀ (p : Path) (d' : Disk), d'.workingDirectory = d.workingDirectory →
        (∀ m, m ≠ d.target p → d'.get? m = d.get? m) →
        p ∈ s.watchedFiles root ∨ d'.isDirectory (d.target p) = d.isDirectory (d.target p) →
        (s.userFile.map d.target ≠ some (d.target p) → (s.load d' root).userFile = (s.load d root).userFile) ∧
          ((root.map Startup.workspaceFile).map d.target ≠ some (d.target p) →
            (s.load d' root).workspaceFile = (s.load d root).workspaceFile) ∧
          (s.configFile.map d.target ≠ some (d.target p) →
            (s.load d' root).configFile = (s.load d root).configFile) ∧
          (s.load d' root).cli = (s.load d root).cli ∧ (s.load d' root).client = none ∧
          (s.load d root).client = none := by
  refine ⟨fun p => FileSettings.load_error_iff, fun broken hbroken => ?_, fun p d' hplace hget hchange => ?_⟩
  · refine Startup.load_congr fun f hf => FileSettings.cap?_clear_broken (fun g hg => (hbroken g hg).2) ?_
    intro g hg hne
    exact hapart f hf g (hbroken g hg).1 hne
  · have hfile : ∀ file : Option Path, (∀ f, file = some f → f ∈ s.watchedFiles root) →
        file.map d.target ≠ some (d.target p) →
        file.bind (FileSettings.cap? d') = file.bind (FileSettings.cap? d) := by
      intro file hmem htarget
      cases file with
      | none => rfl
      | some f =>
        have hend : d.target f ≠ d.target p := fun h => htarget (congrArg some h)
        have hway : d.target p ∉ d.way f ∨ d'.isDirectory (d.target p) = d.isDirectory (d.target p) := by
          refine hchange.imp_left fun hp hpass => ?_
          have hne : f ≠ p := fun h => hend (congrArg d.target h)
          exact hapart f (hmem f rfl) p hp hne (Or.inr ⟨_, hpass, by simp [Disk.isWithin]⟩)
        have hfind := Disk.find?_of_eq_elsewhere hplace hget hend hway
        exact (cap?_of_find? hfind).trans (cap?_of_find? rfl).symm
    exact ⟨hfile s.userFile fun f hf => Startup.mem_watchedFiles.2 (Or.inl hf),
      hfile (root.map Startup.workspaceFile) fun f hf => Startup.mem_watchedFiles.2 (Or.inr (Or.inl hf)),
      hfile s.configFile fun f hf => Startup.mem_watchedFiles.2 (Or.inr (Or.inr hf)), rfl, rfl, rfl⟩

end Layers

/-! ## Two broken files -/

section TwoBroken

/-- The settings of the user are no TOML, and a directory with a file in it is in the place of those of the workspace.
One more settings file is as it should be. -/
def brokenFilesDisk : Disk where
  entries := [(placeOf ["home"], .directory), (placeOf ["home", "user.toml"], .file "cap ==".toUTF8),
    (placeOf ["ws"], .directory), (placeOf ["ws", ".tdls.toml"], .directory),
    (placeOf ["ws", ".tdls.toml", "old"], .file "".toUTF8), (placeOf ["ws", "c.toml"], capFile "7")]
  workingDirectory := []

/-- Where the settings come from. -/
def brokenFilesStartup : Startup := ⟨none, some (.ofText "/ws/c.toml"), some (.ofText "/home/user.toml"), "info"⟩

/-- The root of the workspace. -/
def brokenFilesRoot : Option Path := some (.ofText "/ws/")

/-- Without the two broken files the layers are the same. When the good one changes, the others do not notice. -/
theorem brokenFiles_count_as_missing :
    let user := Path.ofText "/home/user.toml"
    let workspace := Path.ofText "/ws/.tdls.toml"
    let config := Path.ofText "/ws/c.toml"
    let changed := brokenFilesDisk.set (brokenFilesDisk.target config) (capFile "-7")
    (∀ f ∈ brokenFilesStartup.watchedFiles brokenFilesRoot, ∀ g ∈ brokenFilesStartup.watchedFiles brokenFilesRoot,
        f ≠ g → ¬ brokenFilesDisk.LiesBelow f (brokenFilesDisk.target g)) ∧
      FileSettings.Broken brokenFilesDisk user ∧ FileSettings.Broken brokenFilesDisk workspace ∧
      brokenFilesStartup.load brokenFilesDisk brokenFilesRoot = { configFile := some 7 } ∧
      brokenFilesStartup.load (brokenFilesDisk.clear [brokenFilesDisk.target user, brokenFilesDisk.target workspace])
        brokenFilesRoot = { configFile := some 7 } ∧
      (brokenFilesStartup.load changed brokenFilesRoot).userFile = none ∧
      (brokenFilesStartup.load changed brokenFilesRoot).workspaceFile = none := by
  intro user workspace config changed
  have hapart : ∀ f ∈ brokenFilesStartup.watchedFiles brokenFilesRoot,
      ∀ g ∈ brokenFilesStartup.watchedFiles brokenFilesRoot,
        f ≠ g → ¬ brokenFilesDisk.LiesBelow f (brokenFilesDisk.target g) := by decide +kernel
  have hload : brokenFilesStartup.load brokenFilesDisk brokenFilesRoot = { configFile := some 7 } := by decide +kernel
  obtain ⟨hbroken, hclear, hchange⟩ := broken_files_count_as_missing hapart
  have huser : FileSettings.Broken brokenFilesDisk user := (hbroken user).1 ⟨.malformed user, by decide +kernel⟩
  have hworkspace : FileSettings.Broken brokenFilesDisk workspace :=
    (hbroken workspace).1 ⟨.unreadable workspace, by decide +kernel⟩
  have hget : ∀ m, m ≠ brokenFilesDisk.target config → changed.get? m = brokenFilesDisk.get? m := by
    intro m hm
    by_cases hroot : m = []
    · rw [hroot]
      rfl
    · rw [brokenFilesDisk.get?_set _ _ hroot, if_neg hm]
  obtain ⟨hkeep, hkeep', -⟩ := hchange config changed rfl hget (Or.inl (by decide +kernel))
  refine ⟨hapart, huser, hworkspace, hload, ?_, ?_, ?_⟩
  · rw [← hload]
    refine hclear [user, workspace] fun g hg => ?_
    rcases List.mem_pair.1 hg with rfl | rfl
    · exact ⟨by decide +kernel, huser⟩
    · exact ⟨by decide +kernel, hworkspace⟩
  · rw [hkeep (by decide +kernel), hload]
  · rw [hkeep' (by decide +kernel), hload]

end TwoBroken

end DialogueScript
