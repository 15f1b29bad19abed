import Mathlib.Data.List.Infix
import DialogueScript.Proofs.Disk.Changes
import DialogueScript.Proofs.Disk.Places
import DialogueScript.Startup

/-!
# Settings files

What a settings file says depends on what its path leads to and on nothing else (`cap?_of_locate?`), so the layers stay
the same as long as all settings files do (`load_congr`).

Every settings file of a startup is a name in a directory (`exists_watchedFile_eq`). For the explicit file this needs a
working directory that is there (`Disk.Grounded`): its path is made from the place where it was found.
-/

namespace DialogueScript

/-! ## What a file says -/

section Content

variable {d d' : Disk} {p : Path}

/-- The cap that an entry of a disk sets. -/
def Entry.cap? : Entry → Option Nat
  | .directory => none
  | .file content => do
    let text ← String.fromUTF8? content
    let settings ← FileSettings.parse? text.toList
    settings.maxNumberOfProblems

/-- A settings file that gives a cap. -/
def capFile (cap : String) : Entry := .file ("max_number_of_problems = " ++ cap).toUTF8

theorem cap?_of_find? {e : Option Entry} (h : d.find? p = e) : FileSettings.cap? d p = e.bind Entry.cap? := by
  unfold FileSettings.cap? FileSettings.load Disk.readText
  rw [h]
  cases e with
  | none => rfl
  | some e =>
    cases e with
    | directory => rfl
    | file content =>
      cases htext : String.fromUTF8? content with
      | none => simp [Entry.cap?, htext]
      | some text =>
        cases hparse : FileSettings.parse? text.toList with
        | none => simp [Entry.cap?, htext, hparse]
        | some settings => simp [Entry.cap?, htext, hparse]

theorem cap?_of_locate? {l : Location} (h : d.locate? p = some l) :
    FileSettings.cap? d p = (d.get? l).bind Entry.cap? :=
  cap?_of_find? (by simp [Disk.find?, h])

theorem cap?_congr (h : d'.readText p = d.readText p) : FileSettings.cap? d' p = FileSettings.cap? d p := by
  unfold FileSettings.cap? FileSettings.load
  rw [h]

/-- Away from the places that a change touches, files say the same. -/
theorem cap?_apply_of_not_touched {l : Location} {c : Disk.Change} (hp : d.locate? p = some l)
    (hp' : (d.apply c).locate? p = some l) (hl : l ≠ []) (h : l ∉ d.touched c) :
    FileSettings.cap? (d.apply c) p = FileSettings.cap? d p := by
  rw [cap?_of_locate? hp, cap?_of_locate? hp']
  rcases d.get?_apply_of_not_touched c hl h with hsame | ⟨hnone, hmade⟩
  · rw [hsame]
  · rw [hnone, hmade]
    rfl

end Content

/-! ## The files of a startup -/

namespace Startup

variable {s : Startup} {root : Option Path} {d d' : Disk}

theorem mem_watchedFiles {f : Path} : f ∈ s.watchedFiles root ↔
    s.userFile = some f ∨ root.map workspaceFile = some f ∨ s.configFile = some f := by
  simp [watchedFiles]

/-- The layers follow from what the settings files say. -/
theorem load_congr (h : ∀ f ∈ s.watchedFiles root, FileSettings.cap? d' f = FileSettings.cap? d f) :
    s.load d' root = s.load d root := by
  have hfile : ∀ file : Option Path, (∀ f, file = some f → f ∈ s.watchedFiles root) →
      file.bind (FileSettings.cap? d') = file.bind (FileSettings.cap? d) := by
    intro file hmem
    cases file with
    | none => rfl
    | some f => exact h f (hmem f rfl)
  unfold load
  rw [hfile s.userFile fun f hf => mem_watchedFiles.2 (Or.inl hf),
    hfile (root.map workspaceFile) fun f hf => mem_watchedFiles.2 (Or.inr (Or.inl hf)),
    hfile s.configFile fun f hf => mem_watchedFiles.2 (Or.inr (Or.inr hf))]

end Startup

/-! ## Names of settings files -/

/-- The working directory is there, and with it every directory above it. -/
def Disk.Grounded (d : Disk) : Prop := ∀ l, l <+: d.workingDirectory → d.isDirectory l = true

instance : DecidablePred Disk.Grounded := fun d =>
  decidable_of_iff (∀ l ∈ d.workingDirectory.inits, d.isDirectory l = true) (by simp [Disk.Grounded, List.mem_inits])

section Names

variable {d : Disk} {name : Name}

/-- Steps from a place that is there end in a directory, or with a name. -/
theorem follow?_ends {m : Location} : ∀ {ss : List Path.Step} {l : Location}, (∀ k, k <+: l → d.isDirectory k = true) →
    d.follow? ss l = some m → d.isDirectory m = true ∨ ∃ k name, m = k ++ [name] ∧ .down name ∈ ss := by
  intro ss
  induction ss with
  | nil =>
    intro l hl h
    cases h
    exact Or.inl (hl _ List.prefix_rfl)
  | cons step ss ih =>
    intro l hl h
    have hnext : ∀ {l' : Location}, (∀ k, k <+: l' → d.isDirectory k = true) → d.follow? ss l' = some m →
        d.isDirectory m = true ∨ ∃ k name, m = k ++ [name] ∧ .down name ∈ step :: ss := by
      intro l' hl' h'
      rcases ih hl' h' with hm | ⟨k, name, hm, hmem⟩
      · exact Or.inl hm
      · exact Or.inr ⟨k, name, hm, List.mem_cons_of_mem step hmem⟩
    simp only [Disk.follow?, hl l List.prefix_rfl, Bool.not_true, Bool.false_eq_true, if_false] at h
    cases step with
    | stay => exact hnext hl h
    | up => exact hnext (fun k hk => hl k (hk.trans (List.dropLast_prefix l))) h
    | down name =>
      cases hdir : d.isDirectory (l ++ [name]) with
      | true =>
        refine hnext (fun k hk => ?_) h
        rcases List.prefix_concat_iff.1 hk with rfl | hk
        · simpa using hdir
        · exact hl k hk
      | false =>
        -- only the last step may lead to a place that is no directory
        cases ss with
        | nil =>
          cases h
          exact Or.inr ⟨l, name, rfl, List.mem_cons_self⟩
        | cons step' ss => simp [Disk.follow?, hdir] at h

/-- The path of a location ends in its last name. -/
theorem exists_path_concat (name : Name) : ∀ k : Location, ∃ q, Location.path (k ++ [name]) = ⟨q ++ Path.slash :: name⟩
  | [] => ⟨[], by simp [Location.path]⟩
  | a :: k => by
    obtain ⟨q, hq⟩ := exists_path_concat name k
    have hbytes : Path.slash :: List.intercalate [Path.slash] (k ++ [name]) = q ++ Path.slash :: name :=
      congrArg Path.bytes hq
    refine ⟨Path.slash :: a ++ q, ?_⟩
    have hcons : List.intercalate [Path.slash] (a :: (k ++ [name])) =
        a ++ [Path.slash] ++ List.intercalate [Path.slash] (k ++ [name]) := by
      cases k <;> simp [List.intercalate]
    simp only [Location.path, List.cons_append, hcons, List.append_assoc, List.nil_append, ← hbytes]

/-- A file that a path leads to is a name in a directory. -/
theorem exists_path_of_fileAt? (hd : d.Grounded) {p : Path} {l : Location} (h : d.fileAt? p = some l) :
    ∃ q name, Path.IsName name ∧ l.path = ⟨q ++ Path.slash :: name⟩ := by
  simp only [Disk.fileAt?, Option.bind_eq_bind, Option.bind_eq_some_iff] at h
  obtain ⟨m, hlocate, e, hget, hfile⟩ := h
  cases e with
  | directory => cases hfile
  | file content =>
    cases hfile
    have hp : p.bytes ≠ [] := by
      intro hp
      simp [Disk.locate?, hp] at hlocate
    rw [d.locate?_eq hp] at hlocate
    have horigin : ∀ k, k <+: d.origin p → d.isDirectory k = true := by
      intro k hk
      unfold Disk.origin at hk
      split at hk
      · rw [List.prefix_nil.1 hk]
        rfl
      · exact hd k hk
    rcases follow?_ends horigin hlocate with hdir | ⟨k, name, rfl, hmem⟩
    · rw [d.isDirectory_iff.1 hdir] at hget
      cases hget
    · obtain ⟨q, hq⟩ := exists_path_concat name k
      exact ⟨q, name, isName_of_mem_steps hmem, hq⟩

end Names

namespace Startup

variable {s : Startup} {root : Option Path} {d : Disk} {env : Environment} {o : Options}

/-- What a startup takes from where. -/
theorem ofOptions_eq_ok (h : ofOptions d env o = .ok s) : s.cli = o.maxNumberOfProblems ∧ s.userFile = env.userFile? ∧
    ∀ f, s.configFile = some f → ∃ p l, d.fileAt? p = some l ∧ f = l.path := by
  unfold ofOptions at h
  cases hfile : explicitFile d o.config with
  | error e =>
    rw [hfile] at h
    cases h
  | ok file =>
    rw [hfile] at h
    cases h
    refine ⟨rfl, rfl, ?_⟩
    rintro f rfl
    cases hconfig : o.config with
    | none =>
      rw [hconfig] at hfile
      cases hfile
    | some text =>
      rw [hconfig] at hfile
      simp only [explicitFile] at hfile
      split at hfile
      · rename_i l hl
        cases hfile
        exact ⟨_, l, hl, rfl⟩
      · cases hfile

theorem join_ne_nil (base : Path) {p : Path} (hp : p.bytes ≠ []) : (base.join p).bytes ≠ [] := by
  unfold Path.join
  repeat' split
  all_goals simp [hp]

/-- **Every settings file is a name in a directory.** -/
theorem exists_watchedFile_eq (hd : d.Grounded) (hs : ofOptions d env o = .ok s)
    (hroot : ∀ r, root = some r → r.bytes ≠ [])
    {f : Path} (hf : f ∈ s.watchedFiles root) : ∃ q name, Path.IsName name ∧ f = ⟨q ++ Path.slash :: name⟩ := by
  obtain ⟨-, huser, hconfig⟩ := ofOptions_eq_ok hs
  rcases mem_watchedFiles.1 hf with hf | hf | hf
  · rw [huser] at hf
    obtain ⟨dir, -, rfl⟩ := Option.map_eq_some_iff.1 hf
    have hname : Path.IsName (Utf8.encode "config.toml".toList) := by decide
    obtain ⟨q, hq, -⟩ := Disk.exists_join_eq (join_ne_nil dir (p := .ofText "tdls") (by decide)) hname
    exact ⟨q, _, hname, hq⟩
  · obtain ⟨r, hr, rfl⟩ := Option.map_eq_some_iff.1 hf
    have hname : Path.IsName (Utf8.encode workspaceFileName.toList) := by decide
    obtain ⟨q, hq, -⟩ := Disk.exists_join_eq (hroot r hr) hname
    exact ⟨q, _, hname, hq⟩
  · obtain ⟨p, l, hl, rfl⟩ := hconfig f hf
    exact exists_path_of_fileAt? hd hl

end Startup

end DialogueScript
