import Mathlib.Data.List.Forall2
import DialogueScript.Checker
import DialogueScript.Proofs.Padding
import DialogueScript.Proofs.Server.Reload
import DialogueScript.Server.Stream

/-!
# The checker and the server agree

The two programs come to their settings in different ways: the checker reads them once, in its working directory, and
the server reads them anew when its client names the root of a workspace, however it spells that root (`load_root`).
They also look at different texts: the checker drops a byte order mark at the start of a file, and the server leaves it
to the first line as padding. The problems they find are nevertheless the same, one by one, and only the mark of a
missing speaker on the first line shows whether the byte order mark was counted (`check_agrees`). So they agree on the
same script under the same options (`checker_agrees_with_server`).
-/

namespace DialogueScript

/-! ## The same problems -/

/-- How a report of the checker and a report of the server for one script go together: they say the same of the same
line. They mark the same columns, except for a warning on the first line of a script with a byte order mark, which the
checker does not count. -/
structure Agrees (content : List Char) (checked published : Diagnostic) : Prop where
  severity : checked.severity = published.severity
  message : checked.message = published.message
  index : checked.index = published.index
  lines : checked.range.start.line = published.range.start.line ∧ checked.range.stop.line = published.range.stop.line
  columns :
    if content.head? = some byteOrderMark ∧ checked.severity = .warning ∧ checked.index = 0 then
      checked.range.stop.character.toNat + 1 = published.range.stop.character.toNat ∧
        checked.range.start.character.toNat = checked.range.stop.character.toNat - 2
    else checked.range = published.range

section Problems

theorem agrees_self {content : List Char} (h : content.head? ≠ some byteOrderMark) (d : Diagnostic) :
    Agrees content d d :=
  ⟨rfl, rfl, rfl, ⟨rfl, rfl⟩, by simp [h]⟩

/-- The report of a problem agrees with the report moved by a byte order mark. -/
theorem agrees_marked {s : List Char} {d : Diagnostic} (hsize : columns (byteOrderMark :: s) < UInt32.size)
    (hd : d ∈ problems s) : Agrees (byteOrderMark :: s) d d.marked := by
  rcases problems_cases hd with ⟨i, rfl⟩ | ⟨i, n, hn, rfl⟩
  · have hsame : (missingColonAt i).marked = missingColonAt i := ite_self _
    rw [hsame]
    exact ⟨rfl, rfl, rfl, ⟨rfl, rfl⟩, by simp [Diagnostic.severity, missingColonAt, Problem.severity]⟩
  · by_cases hi : i = 0
    · subst hi
      have hfits : n + 1 < UInt32.size := by
        have hmark : columns [byteOrderMark] = 1 := by decide
        rw [columns_cons, hmark] at hsize
        omega
      refine ⟨rfl, rfl, rfl, ⟨rfl, rfl⟩, ?_⟩
      rw [if_pos ⟨rfl, rfl, rfl⟩]
      refine ⟨?_, toNat_twoBefore _⟩
      have hn : n.toUInt32.toNat = n := UInt32.toNat_ofNat_of_lt' (Nat.lt_of_succ_lt hfits)
      have hn' : (n.toUInt32 + 1).toNat = n + 1 := by
        rw [UInt32.toNat_add, hn]
        exact Nat.mod_eq_of_lt hfits
      exact (congrArg (· + 1) hn).trans hn'.symm
    · have hsame : (missingCharacterAt i n.toUInt32).marked = missingCharacterAt i n.toUInt32 := if_neg hi
      rw [hsame]
      exact ⟨rfl, rfl, rfl, ⟨rfl, rfl⟩, by simp [missingCharacterAt, hi]⟩

/-- **The checker and the server find the same problems.** -/
theorem check_agrees {content : List Char} (hsize : columns content < UInt32.size) (cap : Nat) :
    List.Forall₂ (Agrees content) (Checker.check content cap) (validate content cap) := by
  by_cases hmark : content.head? = some byteOrderMark
  · obtain ⟨s, rfl⟩ := List.head?_eq_some_iff.1 hmark
    have hdrop : dropMark (byteOrderMark :: s) = s := by simp [dropMark]
    rw [Checker.check, hdrop, validate_eq_take, validate_eq_take, problems_mark, ← List.map_take,
      List.forall₂_map_right_iff, List.forall₂_same]
    intro d hd
    exact agrees_marked hsize (List.mem_of_mem_take hd)
  · have hdrop : dropMark content = content := by
      cases content with
      | nil => rfl
      | cons c s =>
        have hc : c ≠ byteOrderMark := fun hc => hmark (congrArg some hc)
        simp [dropMark, hc]
    rw [Checker.check, hdrop, List.forall₂_same]
    intro d _
    exact agrees_self hmark d

end Problems

/-! ## The same settings -/

section Settings

variable {startup : Startup} {disk : Disk} {root : Path}

/-- Only the directory matters that a root leads to, not how it is spelled. -/
theorem load_root {root' : Path} (hroot : root.bytes ≠ []) (hroot' : root'.bytes ≠ [])
    (h : disk.directory? root = disk.directory? root') :
    startup.load disk (some root) = startup.load disk (some root') := by
  have hlocate : disk.locate? (Startup.workspaceFile root) = disk.locate? (Startup.workspaceFile root') := by
    have hname : Path.IsName (Name.ofText workspaceFileName) := by decide
    exact (disk.locate?_join hroot hname).trans (by rw [h]; exact (disk.locate?_join hroot' hname).symm)
  have hcap : FileSettings.cap? disk (Startup.workspaceFile root) =
      FileSettings.cap? disk (Startup.workspaceFile root') := by
    have hfind : disk.find? (Startup.workspaceFile root) = disk.find? (Startup.workspaceFile root') := by
      simp only [Disk.find?, hlocate]
    rw [cap?_of_find? hfind, cap?_of_find? rfl]
  simp only [Startup.load, Option.map_some, Option.bind_some, hcap]

/-- Messages that neither end the service nor bring settings leave the settings alone. -/
theorem after_messages_coherent {root : Option Path} {client : Option Nat} : ∀ (ms : List Message) {s : Session},
    s.server.Coherent s.disk startup root client →
    (∀ m ∈ ms, (Event.message m).stops = false ∧ (Event.message m).settings? = none) →
    (s.after (ms.map .message)).server.Coherent s.disk startup root client
  | [], _, h, _ => h
  | m :: ms, s, h, hms => by
    obtain ⟨hstops, hsettings⟩ := hms m List.mem_cons_self
    have hfirst := h.handle hstops
    rw [hsettings] at hfirst
    exact after_messages_coherent ms (s := (s.step (.message m)).1) hfirst
      fun m' hm' => hms m' (List.mem_cons_of_mem m hm')

/-- The settings of a server whose client has named the working directory are those of a checker. -/
theorem served_coherent (startup : Startup) {hello : Message} {between : List Message}
    (hhello : hello.call? = some (.handshake (some root)))
    (hroot : disk.directory? root = disk.directory? (Location.path disk.workingDirectory))
    (hbetween : ∀ m ∈ between, (Event.message m).stops = false ∧ (Event.message m).settings? = none) :
    let s := (Session.start startup disk).after ((hello :: between).map .message)
    s.server.phase = .active ∧ s.server.layers = startup.load disk (some (Location.path disk.workingDirectory)) := by
  intro s
  have hstart : ((Session.start startup disk).after []).server.phase = .uninitialized := rfl
  have hmet := Session.coherent_handshake startup disk (by simp) hstart hhello
  have h := after_messages_coherent between hmet hbetween
  refine ⟨h.phase, h.layers_eq.trans ?_⟩
  have hpath : (Location.path disk.workingDirectory).bytes ≠ [] := by simp [Location.path]
  rw [← load_root (handshake_root_ne_nil hhello) hpath hroot]
  rfl

end Settings

/-! ## The same script -/

section Scripts

/-- A document that is opened is published at once. -/
theorem step_opened {s : Session} {opening : Message} {uri : Uri} {document : Document}
    (hp : s.server.phase = .active) (hopening : opening.call? = some (.opened uri document)) :
    (s.step (.message opening)).2.out =
      [.publish uri (some document.version) (validate document.content s.server.layers.cap)] := by
  obtain ⟨hi, hs, hx⟩ := method_of_isWork hopening rfl
  have hhandle : s.server.handle s.disk opening = s.server.perform s.disk (.opened uri document) := by
    rw [Server.handle_active hp hx hs, if_pos hi, hopening]
    rfl
  have hout : (s.step (.message opening)).2.out = (s.server.handle s.disk opening).2.filter
      (Server.delivers (s.server.handle s.disk opening).1.phase) := rfl
  rw [hout, hhandle]
  simp [Server.perform, Server.publish, Documents.get?_insert, Server.publication, Server.delivers, hp]

theorem run_of_readText {disk : Disk} {env : Environment} {args : List String} {options : Options} {startup : Startup}
    {file : String} {content : List Char} (hargs : CommandLine.read .checker args = .ok (options, [file]))
    (hstartup : Startup.ofOptions disk env options = .ok startup) (hfile : disk.readText (.ofText file) = .ok content) :
    Checker.run disk env args = Checker.conclude
      [(.ofText file, Checker.check content (startup.load disk (some (Location.path disk.workingDirectory))).cap)]
      none := by
  simp only [Checker.run, hargs, hstartup, Checker.runWith, List.map_cons, List.map_nil, Checker.checkFiles, hfile]

/-- **The checker and the server agree.** The same options are accepted by both. The client of the server names the
working directory as its root, sends no settings, and opens a document; the checker is given a file with the same
content. Then both have the same cap, and what the checker reports and what the server publishes go together one by
one. -/
theorem checker_agrees_with_server {disk : Disk} {env : Environment} {serverArgs checkerArgs : List String}
    {options : Options} {startup : Startup} {root : Path} {hello opening : Message} {between : List Message} {uri : Uri}
    {content : List Char} {version : Int} {file : String}
    (hserver : CommandLine.read .server serverArgs = .ok (options, []))
    (hchecker : CommandLine.read .checker checkerArgs = .ok (options, [file]))
    (hstartup : Startup.ofOptions disk env options = .ok startup)
    (hhello : hello.call? = some (.handshake (some root)))
    (hroot : disk.directory? root = disk.directory? (Location.path disk.workingDirectory))
    (hbetween : ∀ m ∈ between, (Event.message m).stops = false ∧ (Event.message m).settings? = none)
    (hopening : opening.call? = some (.opened uri ⟨content, version⟩))
    (hfile : disk.readText (.ofText file) = .ok content) (hsize : columns content < UInt32.size) :
    ∃ stream, Stream.begin disk env serverArgs = .ok stream ∧
      let served := stream.session.after ((hello :: between).map .message)
      let cap := (startup.load disk (some (Location.path disk.workingDirectory))).cap
      served.server.layers.cap = cap ∧
        (served.step (.message opening)).2.out = [.publish uri (some version) (validate content cap)] ∧
        Checker.run disk env checkerArgs = Checker.conclude [(.ofText file, Checker.check content cap)] none ∧
        List.Forall₂ (Agrees content) (Checker.check content cap) (validate content cap) := by
  refine ⟨⟨Session.start startup disk, true⟩, by simp only [Stream.begin, hserver, hstartup], ?_⟩
  intro served cap
  obtain ⟨hphase, hlayers⟩ := served_coherent startup hhello hroot hbetween
  have hcap : served.server.layers.cap = cap := congrArg Layers.cap hlayers
  refine ⟨hcap, ?_, run_of_readText hchecker hstartup hfile, check_agrees hsize cap⟩
  rw [← hcap]
  exact step_opened hphase hopening

end Scripts

/-! ## A script with a byte order mark -/

section MarkedScript

/-- A script with a byte order mark and a problem on each line. -/
def markedScript : String := "\uFEFF- : x\n- y\n-:z"

/-- A workspace with settings and a script; it is the working directory. -/
def markedScriptDisk : Disk where
  entries := [(placeOf ["ws"], .directory), (placeOf ["ws", ".tdls.toml"], capFile "2"),
    (placeOf ["ws", "script"], .file markedScript.toUTF8)]
  workingDirectory := placeOf ["ws"]

/-- What both programs start with. -/
def markedScriptStartup : Startup := ⟨some 0, none, some (.ofText "/home/.config/tdls/config.toml"), "info"⟩

/-- The URI of the script. -/
def markedScriptUri : Uri := ⟨"file".toList, some ⟨[], none, [], none⟩, "/ws/script".toList, none, none⟩

theorem markedScript_agrees :
    CommandLine.read .server ["--max-number-of-problems=0"] = .ok (⟨some 0, none, "info"⟩, []) ∧
      CommandLine.read .checker ["script", "--max-number-of-problems", "0"] = .ok (⟨some 0, none, "info"⟩, ["script"]) ∧
      ∃ stream, Stream.begin markedScriptDisk ⟨some "/home", none⟩ ["--max-number-of-problems=0"] = .ok stream ∧
        let served := stream.session.after [.message (.hello (some "file:///ws/")), .message .ready]
        (served.step (.message (.didOpen "file:///ws/script" 3 markedScript))).2.out =
            [.publish markedScriptUri (some 3) [missingCharacterAt 0 3, missingColonAt 1]] ∧
          Checker.run markedScriptDisk ⟨some "/home", none⟩ ["script", "--max-number-of-problems", "0"] =
            Checker.conclude [(.ofText "script", [missingCharacterAt 0 2, missingColonAt 1])] none := by
  have hserver : CommandLine.read .server ["--max-number-of-problems=0"] = .ok (⟨some 0, none, "info"⟩, []) := by
    decide +kernel
  have hchecker : CommandLine.read .checker ["script", "--max-number-of-problems", "0"] =
      .ok (⟨some 0, none, "info"⟩, ["script"]) := by decide +kernel
  have hstartup : Startup.ofOptions markedScriptDisk ⟨some "/home", none⟩ ⟨some 0, none, "info"⟩ =
      .ok markedScriptStartup := by decide +kernel
  have hroot : markedScriptDisk.directory? (.ofText "/ws/") =
      markedScriptDisk.directory? (Location.path markedScriptDisk.workingDirectory) := by decide +kernel
  have hfile : markedScriptDisk.readText (.ofText "script") = .ok markedScript.toList := by decide +kernel
  have hopening : (Message.didOpen "file:///ws/script" 3 markedScript).call? =
      some (.opened markedScriptUri ⟨markedScript.toList, 3⟩) := rfl
  have hhello : (Message.hello (some "file:///ws/")).call? = some (.handshake (some (.ofText "/ws/"))) := rfl
  have hbetween : ∀ m ∈ [Message.ready], (Event.message m).stops = false ∧ (Event.message m).settings? = none := by
    intro m hm
    rw [List.mem_singleton.1 hm]
    exact ⟨rfl, rfl⟩
  obtain ⟨stream, hbegin, -, hout, hrun, -⟩ := checker_agrees_with_server hserver hchecker hstartup hhello hroot
    hbetween hopening hfile (by decide +kernel)
  have hcap : (markedScriptStartup.load markedScriptDisk
      (some (Location.path markedScriptDisk.workingDirectory))).cap = 2 := by decide +kernel
  have hpublished : validate markedScript.toList 2 = [missingCharacterAt 0 3, missingColonAt 1] := by decide +kernel
  have hchecked : Checker.check markedScript.toList 2 = [missingCharacterAt 0 2, missingColonAt 1] := by decide +kernel
  rw [hcap, hpublished] at hout
  rw [hcap, hchecked] at hrun
  exact ⟨hserver, hchecker, stream, hbegin, hout, hrun⟩

end MarkedScript

end DialogueScript
