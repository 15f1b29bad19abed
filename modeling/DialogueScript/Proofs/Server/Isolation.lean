import Mathlib.Algebra.Group.Int.Defs
import DialogueScript.Proofs.Server.Settings

/-!
# Documents are isolated

What happens to one document does not depend on the others. `Call.edit?` says what a call makes of the document of a
URI, and the messages of the editor protocol make the calls they describe (`call?_didOpen`, `call?_didChange`,
`call?_didClose`).

* What is stored for a URI is what the last edit among the accepted calls has left (`document_after`).
* Two servers are twins for a URI (`Server.Twins`) when they differ in other documents only. They publish the same for
  that URI and stay twins, whether both carry out a call (`Twins.perform`), or one of them carries out a call about
  another document (`Twins.perform_other`). So a run and the run without the messages about other documents publish the
  same for a URI (`run_twins`).
-/

namespace DialogueScript

/-! ## Edits -/

section Edits

/-- The URI of the one document that a call is about. -/
def Call.uri? : Call → Option Uri
  | .opened uri _ | .changed uri _ | .closed uri => some uri
  | _ => none

/-- What a call makes of the document of a URI: a new document or none. It may also leave it alone. -/
def Call.edit? (uri : Uri) : Call → Option (Option Document)
  | .opened u document | .changed u (some document) => if uri = u then some (some document) else none
  | .closed u => if uri = u then some none else none
  | _ => none

/-- Whether an event is a message about the document of another URI. -/
def Event.isAboutOther (uri : Uri) : Event → Bool
  | .message m => (m.call?.bind Call.uri?).any (· != uri)
  | .publish _ | .change _ => false

/-- The calls that are carried out in a course of events. -/
def Session.accepted : Session → List Event → List Call
  | _, [] => []
  | s, e :: events => (s.served? e).toList ++ (s.step e).1.accepted events

/-- The last edit of the document of a URI among some calls. -/
def lastEdit (uri : Uri) (calls : List Call) : Option (Option Document) := (calls.filterMap (Call.edit? uri)).getLast?

theorem lastEdit_append (uri : Uri) (calls more : List Call) :
    lastEdit uri (calls ++ more) = (lastEdit uri more).or (lastEdit uri calls) := by
  simp only [lastEdit, List.filterMap_append, List.getLast?_append]

theorem lastEdit_toList (uri : Uri) (call : Option Call) : lastEdit uri call.toList = call.bind (Call.edit? uri) := by
  cases call with
  | none => rfl
  | some call => cases h : call.edit? uri <;> simp [lastEdit, h]

end Edits

/-! ## Messages about documents -/

section Messages

variable {name : String} {uri : Uri} {version : Int}

theorem read?_int32 (hlow : -2 ^ 31 ≤ version) (hhigh : version < 2 ^ 31) :
    Shape.int32.read? (.integer version) = some (.integer version) := by
  have hpow : Int.pow 2 31 = 2 ^ 31 := rfl
  simp only [Shape.int32, Shape.read?, hpow, Bool.and_eq_true, decide_eq_true_eq]
  rw [if_pos ⟨hlow, by omega⟩]

/-- A list of values that have the shape of an item is read as it is. -/
theorem read?_list {item : Shape} {vs : List Json} (h : ∀ v ∈ vs, item.read? v = some v) :
    (Shape.list item).read? (.array vs) = some (.array vs) := by
  have hall : vs.mapM item.read? = some vs := by
    induction vs with
    | nil => rfl
    | cons v vs ih =>
      rw [List.mapM_cons, h v List.mem_cons_self, ih fun w hw => h w (List.mem_cons_of_mem v hw)]
      rfl
  simp [Shape.read?, hall]

/-- A record that has the members of its fields, in their order, is read as it is. -/
theorem read?_record {fields : List (String × Presence × Shape)} {members : List (String × Json)}
    (h : Shape.readNamed? fields members = some members) :
    (Shape.fields fields).read? (.object members) = some (.object members) := by
  simp [Shape.fields, Shape.read?, h]

theorem readNamed?_need {field : String} {shape : Shape} {fields : List (String × Presence × Shape)}
    {members rest : List (String × Json)} {v : Json} (hv : Json.lookup? field members = some v)
    (hread : shape.read? v = some v) (hrest : Shape.readNamed? fields members = some rest) :
    Shape.readNamed? (Shape.need field shape :: fields) members = some ((field, v) :: rest) := by
  have hmember : Shape.member? field .required shape.read? (some v) = some [(field, v)] := by
    cases v <;> simp [Shape.member?, hread]
  simp [Shape.need, Shape.readNamed?, hv, hmember, hrest]

theorem readNamed?_may {field : String} {shape : Shape} {fields : List (String × Presence × Shape)}
    {members : List (String × Json)} (hv : Json.lookup? field members = none) :
    Shape.readNamed? (Shape.may field shape :: fields) members = Shape.readNamed? fields members := by
  simp [Shape.may, Shape.readNamed?, hv, Shape.member?]

theorem read?_uri (hname : Uri.parse? name.toList = some uri) :
    Shape.uri.read? (.string name) = some (.string name) := by
  simp [Shape.read?, hname]

/-- A message with parameters of the right shape makes the call that is read off them. -/
theorem call?_of_shape {m : Message} {method : String} {shape : Shape} {call? : Json → Option Call} {v : Json}
    (hmethod : Method.named? m.method = some ⟨method, .notification, Call.shaped shape call?⟩) (hid : m.id = none)
    (hparams : m.params = some v) (hread : shape.read? v = some v) : m.call? = call? v := by
  rw [call?_of_method hmethod]
  simp [Method.call?, hid, hparams, Call.shaped, hread]

theorem call?_didOpen (hname : Uri.parse? name.toList = some uri) (hlow : -2 ^ 31 ≤ version)
    (hhigh : version < 2 ^ 31) (text : String) :
    (Message.didOpen name version text).call? = some (.opened uri ⟨text.toList, version⟩) := by
  have hcall := call?_of_shape (m := Message.didOpen name version text) rfl rfl rfl
    (read?_record (readNamed?_need rfl (read?_record (readNamed?_need rfl (read?_uri hname) (readNamed?_need rfl rfl
      (readNamed?_need rfl (read?_int32 hlow hhigh) (readNamed?_need rfl rfl rfl))))) rfl))
  rw [hcall]
  simp [Call.openedOf?, Json.get?, Json.lookup?, Call.uriAt?, Call.textAt?, Call.versionAt?, hname]

/-- Of several changes the last one counts. -/
theorem call?_didChange (hname : Uri.parse? name.toList = some uri) (hlow : -2 ^ 31 ≤ version)
    (hhigh : version < 2 ^ 31) (texts : List String) :
    (Message.didChange name version texts).call? =
      some (.changed uri (texts.getLast?.map fun text => ⟨text.toList, version⟩)) := by
  have hchange (text : String) : (Shape.fields [Shape.may "range" Params.range, Shape.may "rangeLength" Shape.uint32,
      Shape.need "text" .string]).read? (.object [("text", .string text)]) = some (.object [("text", .string text)]) :=
    read?_record ((readNamed?_may rfl).trans ((readNamed?_may rfl).trans (readNamed?_need rfl rfl rfl)))
  have hchanges := read?_list (List.forall_mem_map.2 fun text (_ : text ∈ texts) => hchange text)
  have hcall := call?_of_shape (m := Message.didChange name version texts) rfl rfl rfl
    (read?_record (readNamed?_need rfl
      (read?_record (readNamed?_need rfl (read?_uri hname) (readNamed?_need rfl (read?_int32 hlow hhigh) rfl)))
      (readNamed?_need rfl hchanges rfl)))
  rw [hcall]
  cases hlast : texts.getLast? <;>
    simp [Call.changedOf?, Json.get?, Json.lookup?, Call.uriAt?, Call.textAt?, Call.versionAt?, Call.itemsAt, hname,
      hlast]

theorem call?_didClose (hname : Uri.parse? name.toList = some uri) :
    (Message.didClose name).call? = some (.closed uri) := by
  have hcall := call?_of_shape (m := Message.didClose name) rfl rfl rfl
    (read?_record (readNamed?_need rfl (read?_record (readNamed?_need rfl (read?_uri hname) rfl)) rfl))
  rw [hcall]
  simp [Call.closedOf?, Json.get?, Json.lookup?, Call.uriAt?, Call.textAt?, hname]

end Messages

/-! ## What is stored -/

section Stored

variable {uri : Uri}

namespace Server

/-- A call makes of a document what its edit says. -/
theorem get?_perform (d : Disk) (s : Server) (call : Call) (uri : Uri) :
    (s.perform d call).1.documents.get? uri = (call.edit? uri).getD (s.documents.get? uri) := by
  cases call with
  | handshake | ready | shutDown | complete | resolveItem | unoffered | configured | ignored => rfl
  | opened u document =>
    simp only [perform, Documents.get?_insert, Call.edit?]
    split <;> rfl
  | changed u document =>
    cases document with
    | none => rfl
    | some document =>
      simp only [perform, Documents.get?_insert, Call.edit?]
      split <;> rfl
  | closed u =>
    simp only [perform, Documents.get?_erase, Call.edit?]
    split <;> rfl
  | filesChanged uris =>
    simp only [perform]
    split <;> rfl

theorem get?_handle (d : Disk) (s : Server) (m : Message) (uri : Uri) :
    (s.handle d m).1.documents.get? uri =
      ((s.phase.served? m).bind (Call.edit? uri)).getD (s.documents.get? uri) := by
  rw [handle_eq]
  cases s.phase.served? m with
  | none => rfl
  | some call => exact get?_perform d _ call uri

end Server

namespace Session

theorem get?_step (s : Session) (e : Event) (uri : Uri) : (s.step e).1.server.documents.get? uri =
    ((s.served? e).bind (Call.edit? uri)).getD (s.server.documents.get? uri) := by
  cases e with
  | message m => exact Server.get?_handle s.disk s.server m uri
  | publish u => rfl
  | change c =>
    rw [step_change]
    simp only [(Server.noticeAll_keeps _ _ _).2]
    rfl

/-- What is stored for a URI is what the last accepted edit has left. -/
theorem document_after (uri : Uri) : ∀ (events : List Event) (s : Session),
    (s.after events).server.documents.get? uri =
      (lastEdit uri (s.accepted events)).getD (s.server.documents.get? uri)
  | [], _ => rfl
  | e :: events, s => by
    rw [after_cons, document_after uri events (s.step e).1, get?_step, accepted, lastEdit_append, lastEdit_toList]
    cases lastEdit uri ((s.step e).1.accepted events) <;> rfl

end Session

end Stored

/-! ## Twins -/

section Twins

namespace Server

/-- Two servers that differ in nothing but the documents of other URIs. -/
structure Twins (uri : Uri) (s s' : Server) : Prop where
  same : s' = { s with documents := s'.documents }
  document : s'.documents.get? uri = s.documents.get? uri
  distinct : s.documents.Distinct
  distinct' : s'.documents.Distinct

variable {uri : Uri} {s s' : Server} {d : Disk}

theorem Twins.phase (h : s.Twins uri s') : s'.phase = s.phase := by
  rw [h.same]

/-- Publications for a URI go by the document there, the settings, and nothing else. -/
theorem Twins.publishAll (h : s.Twins uri s') :
    publicationsFor uri s'.publishAll = publicationsFor uri s.publishAll := by
  rw [publicationsFor_publishAll s' uri h.distinct', publicationsFor_publishAll s uri h.distinct, h.document]
  rw [h.same]
  rfl

theorem Twins.publish (h : s.Twins uri s') (u : Uri) :
    publicationsFor uri (s'.publish u) = publicationsFor uri (s.publish u) := by
  rw [publicationsFor_publish, publicationsFor_publish, h.document, h.same]
  rfl

/-- What is done to all but the documents keeps twins. -/
theorem Twins.update (h : s.Twins uri s') {t t' : Server} (hdocs : t.documents = s.documents)
    (hdocs' : t'.documents = s'.documents) (hsame : t' = { t with documents := s'.documents }) : t.Twins uri t' := by
  refine ⟨by rw [hdocs']; exact hsame, ?_, ?_, ?_⟩
  · rw [hdocs, hdocs']
    exact h.document
  · rw [hdocs]
    exact h.distinct
  · rw [hdocs']
    exact h.distinct'

theorem Twins.reload (h : s.Twins uri s') (d : Disk) : (s.reload d).1.Twins uri (s'.reload d).1 ∧
    publicationsFor uri (s'.reload d).2 = publicationsFor uri (s.reload d).2 := by
  have htwins : (s.reload d).1.Twins uri (s'.reload d).1 := h.update rfl rfl (by rw [h.same]; rfl)
  exact ⟨htwins, htwins.publishAll⟩

theorem Twins.configure (h : s.Twins uri s') (settings : Json) :
    (s.configure settings).1.Twins uri (s'.configure settings).1 ∧
      publicationsFor uri (s'.configure settings).2 = publicationsFor uri (s.configure settings).2 := by
  have htwins : (s.configure settings).1.Twins uri (s'.configure settings).1 :=
    h.update rfl rfl (by rw [h.same]; rfl)
  refine ⟨htwins, ?_⟩
  have hall : publicationsFor uri (s'.configure settings).1.publishAll =
      publicationsFor uri (s.configure settings).1.publishAll := htwins.publishAll
  simp only [Server.configure] at hall ⊢
  rw [publicationsFor_append, publicationsFor_append, hall]

/-- Both write the same document. -/
theorem Twins.insert (h : s.Twins uri s') (u : Uri) (document : Document) :
    Twins uri { s with documents := s.documents.insert u document }
        { s' with documents := s'.documents.insert u document } := by
  refine ⟨?_, ?_, h.distinct.insert u document, h.distinct'.insert u document⟩
  · rw [h.same]
  · simp only [Documents.get?_insert, h.document]

/-- Both drop the same document. -/
theorem Twins.erase (h : s.Twins uri s') (u : Uri) :
    Twins uri { s with documents := s.documents.erase u } { s' with documents := s'.documents.erase u } := by
  refine ⟨?_, ?_, h.distinct.erase u, h.distinct'.erase u⟩
  · rw [h.same]
  · simp only [Documents.get?_erase, h.document]

/-- **Twins that carry out the same call stay twins**, and publish the same for their URI. -/
theorem Twins.perform (h : s.Twins uri s') (d : Disk) (call : Call) :
    (s.perform d call).1.Twins uri (s'.perform d call).1 ∧
      publicationsFor uri (s'.perform d call).2 = publicationsFor uri (s.perform d call).2 := by
  cases call with
  | handshake root => exact ⟨h.update rfl rfl (by rw [h.same]; rfl), rfl⟩
  | ready => exact ⟨h.update rfl rfl (by rw [h.same]; rfl), rfl⟩
  | shutDown => exact ⟨h.update rfl rfl (by rw [h.same]; rfl), rfl⟩
  | complete | resolveItem | unoffered | ignored => exact ⟨h, rfl⟩
  | opened u document => exact ⟨h.insert u document, (h.insert u document).publish u⟩
  | changed u document =>
    cases document with
    | none => exact ⟨h, rfl⟩
    | some document => exact ⟨h.insert u document, (h.insert u document).publish u⟩
  | closed u => exact ⟨h.erase u, rfl⟩
  | configured settings => exact h.configure settings
  | filesChanged uris =>
    simp only [Server.perform]
    split
    · exact h.reload d
    · exact ⟨h, rfl⟩

/-- **A call about another document does not concern twins**, even if only one of them carries it out. -/
theorem Twins.perform_other (h : s.Twins uri s') (d : Disk) {call : Call} {u : Uri} (hcall : call.uri? = some u)
    (hu : u ≠ uri) : (s.perform d call).1.Twins uri s' ∧ publicationsFor uri (s.perform d call).2 = [] := by
  have hdocument : (s.perform d call).1.documents.get? uri = s.documents.get? uri := by
    have hedit : call.edit? uri = none := by
      cases call with
      | opened | closed =>
        cases hcall
        exact if_neg hu.symm
      | changed _ document =>
        cases hcall
        cases document with
        | none => rfl
        | some document => exact if_neg hu.symm
      | _ => rfl
    rw [get?_perform, hedit]
    rfl
  cases call with
  | opened v document =>
    cases hcall
    refine ⟨⟨h.same, h.document.trans hdocument.symm, h.distinct.insert u document, h.distinct'⟩, ?_⟩
    exact (publicationsFor_publish _ uri u).trans (if_neg hu.symm)
  | changed v document =>
    cases hcall
    cases document with
    | none => exact ⟨h, rfl⟩
    | some document =>
      refine ⟨⟨h.same, h.document.trans hdocument.symm, h.distinct.insert u document, h.distinct'⟩, ?_⟩
      exact (publicationsFor_publish _ uri u).trans (if_neg hu.symm)
  | closed v =>
    cases hcall
    refine ⟨⟨h.same, h.document.trans hdocument.symm, h.distinct.erase u, h.distinct'⟩, ?_⟩
    simp [Server.perform, publicationsFor, Outgoing.isFor, hu]
  | _ => cases hcall

theorem Twins.noticeAll (h : s.Twins uri s') (d : Disk) (paths : List Path) :
    (s.noticeAll d paths).1.Twins uri (s'.noticeAll d paths).1 ∧
      publicationsFor uri (s'.noticeAll d paths).2 = publicationsFor uri (s.noticeAll d paths).2 := by
  induction paths generalizing s s' with
  | nil => exact ⟨h, rfl⟩
  | cons p paths ih =>
    obtain ⟨hreload, hout⟩ := h.reload d
    obtain ⟨hrest, hmore⟩ := ih hreload
    refine ⟨hrest, ?_⟩
    simp only [Server.noticeAll, List.cons_append, publicationsFor_log, publicationsFor_append, hout, hmore]

theorem Twins.handle (h : s.Twins uri s') (d : Disk) (m : Message) :
    (s.handle d m).1.Twins uri (s'.handle d m).1 ∧
      publicationsFor uri (s'.handle d m).2 = publicationsFor uri (s.handle d m).2 := by
  rw [handle_eq, handle_eq, h.phase]
  have hentered : Twins uri { s with phase := s.phase.entered m } { s' with phase := s.phase.entered m } :=
    h.update rfl rfl (by rw [h.same])
  cases s.phase.served? m with
  | none => exact ⟨hentered, rfl⟩
  | some call => exact hentered.perform d call

/-- A message about another document does not concern twins. -/
theorem Twins.handle_other (h : s.Twins uri s') (d : Disk) {m : Message}
    (hm : (Event.message m).isAboutOther uri = true) :
    (s.handle d m).1.Twins uri s' ∧ publicationsFor uri (s.handle d m).2 = [] := by
  obtain ⟨u, hcall, hu⟩ : ∃ u, m.call?.bind Call.uri? = some u ∧ u ≠ uri := by
    simpa [Event.isAboutOther, Option.any_eq_true] using hm
  obtain ⟨call, hcall, huri⟩ := Option.bind_eq_some_iff.1 hcall
  have hwork : call.isWork = true := by
    cases call with
    | opened | changed | closed => rfl
    | _ => cases huri
  obtain ⟨-, hs, hx⟩ := method_of_isWork hcall hwork
  rw [handle_eq]
  have hentered : s.phase.entered m = s.phase := by
    cases hp : s.phase <;> simp [Phase.entered, hs, hx]
  rw [hentered]
  cases hserved : s.phase.served? m with
  | none => exact ⟨h, rfl⟩
  | some served =>
    cases (Phase.call?_of_served? hserved).symm.trans hcall
    exact h.perform_other d huri hu

end Server

/-! ## Runs -/

namespace Session

variable {uri : Uri}

/-- A step that is not about another document keeps twins, and shows the same for their URI. -/
theorem step_twins {s s' : Session} (h : s.server.Twins uri s'.server) (hdisk : s'.disk = s.disk) (e : Event) :
    ((s.step e).1.server.Twins uri (s'.step e).1.server ∧ (s'.step e).1.disk = (s.step e).1.disk) ∧
      publicationsFor uri (s'.step e).2.out = publicationsFor uri (s.step e).2.out := by
  obtain ⟨server, disk⟩ := s
  obtain ⟨server', disk'⟩ := s'
  cases hdisk
  replace h : server.Twins uri server' := h
  cases e with
  | message m =>
    obtain ⟨htwins, hout⟩ := h.handle disk m
    refine ⟨⟨htwins, rfl⟩, ?_⟩
    have hshown (t : Server) : (step ⟨t, disk⟩ (.message m)).2.out =
        (t.handle disk m).2.filter (Server.delivers (t.handle disk m).1.phase) := rfl
    rw [hshown, hshown, publicationsFor_filter, publicationsFor_filter, htwins.phase, hout]
  | publish u =>
    refine ⟨⟨h, rfl⟩, ?_⟩
    have hshown (t : Server) : (step ⟨t, disk⟩ (.publish u)).2.out =
        (t.publish u).filter (Server.delivers t.phase) := rfl
    rw [hshown, hshown, publicationsFor_filter, publicationsFor_filter, h.phase, h.publish u]
  | change c =>
    have hwatcher : server'.watcher = server.watcher := by rw [h.same]
    simp only [step, react, hwatcher]
    cases server.watcher with
    | none => exact ⟨⟨h, rfl⟩, rfl⟩
    | some w =>
      have hwatch : Server.Twins uri { server with watcher := some (w.after c) }
          { server' with watcher := some (w.after c) } := h.update rfl rfl (by rw [h.same])
      obtain ⟨htwins, hout⟩ := hwatch.noticeAll (disk.apply c) (w.reports disk c)
      refine ⟨⟨htwins, rfl⟩, ?_⟩
      rw [publicationsFor_filter, publicationsFor_filter, htwins.phase, hout]

/-- A step about another document does not concern twins. -/
theorem step_other {s s' : Session} (h : s.server.Twins uri s'.server) (hdisk : s'.disk = s.disk) {e : Event}
    (he : e.isAboutOther uri = true) :
    ((s.step e).1.server.Twins uri s'.server ∧ s'.disk = (s.step e).1.disk) ∧
      publicationsFor uri (s.step e).2.out = [] := by
  cases e with
  | message m =>
    obtain ⟨htwins, hout⟩ := h.handle_other s.disk he
    refine ⟨⟨htwins, hdisk⟩, ?_⟩
    have hshown : (s.step (.message m)).2.out =
        (s.server.handle s.disk m).2.filter (Server.delivers (s.server.handle s.disk m).1.phase) := rfl
    rw [hshown, publicationsFor_filter, hout]
    rfl
  | publish | change => cases he

/-- What a run shows for a URI, and what it leaves there, stays the same when the messages about other documents are
taken out. -/
theorem run_twins : ∀ (events : List Event) {s s' : Session}, s.server.Twins uri s'.server → s'.disk = s.disk →
    publicationsFor uri ((s'.run (events.filter fun e => !e.isAboutOther uri)).2.flatMap Shown.out) =
        publicationsFor uri ((s.run events).2.flatMap Shown.out) ∧
      (s.after events).server.Twins uri (s'.after (events.filter fun e => !e.isAboutOther uri)).server
  | [], _, _, h, _ => ⟨rfl, h⟩
  | e :: events, s, s', h, hdisk => by
    by_cases he : e.isAboutOther uri = true
    · obtain ⟨⟨htwins, hdisk'⟩, hout⟩ := step_other h hdisk he
      obtain ⟨hshown, hafter⟩ := run_twins events htwins hdisk'
      rw [List.filter_cons_of_neg (by simp [he])]
      refine ⟨?_, hafter⟩
      rw [hshown]
      simp only [run, List.flatMap_cons, publicationsFor_append, hout, List.nil_append]
    · obtain ⟨⟨htwins, hdisk'⟩, hout⟩ := step_twins h hdisk e
      obtain ⟨hshown, hafter⟩ := run_twins events htwins hdisk'
      rw [List.filter_cons_of_pos (by simp [he])]
      refine ⟨?_, hafter⟩
      simp only [run, List.flatMap_cons, publicationsFor_append, hout, hshown]

end Session

end Twins

/-- **Documents are isolated from each other.** After any course of events, what is stored for a URI is what the last
accepted edit of its document has left, where an opened document is stored as it is, a change stores the text of its
last entry with its version and does nothing without entries, and a closed document is dropped. And without all messages
about other documents, the same is published for the URI, in the same order. -/
theorem documents_are_isolated (startup : Startup) (d : Disk) (events : List Event) (uri : Uri) :
    let s := Session.start startup d
    let alone := events.filter fun e => !e.isAboutOther uri
    (s.after events).server.documents.get? uri = (lastEdit uri (s.accepted events)).getD none ∧
      (∀ name version, Uri.parse? name.toList = some uri → -2 ^ 31 ≤ version → version < 2 ^ 31 →
        (∀ text, (Message.didOpen name version text).call?.bind (Call.edit? uri) =
            some (some ⟨text.toList, version⟩)) ∧
          (∀ texts, (Message.didChange name version texts).call?.bind (Call.edit? uri) =
            texts.getLast?.map fun text => some ⟨text.toList, version⟩) ∧
          (Message.didClose name).call?.bind (Call.edit? uri) = some none) ∧
      (s.after alone).server.documents.get? uri = (s.after events).server.documents.get? uri ∧
      publicationsFor uri ((s.run alone).2.flatMap Shown.out) =
        publicationsFor uri ((s.run events).2.flatMap Shown.out) := by
  intro s alone
  have htwins : s.server.Twins uri s.server := ⟨rfl, rfl, List.nodup_nil, List.nodup_nil⟩
  obtain ⟨hshown, hafter⟩ := Session.run_twins events htwins rfl
  refine ⟨Session.document_after uri events s,
    fun name version hname hlow hhigh => ⟨fun text => ?_, fun texts => ?_, ?_⟩, hafter.document, hshown⟩
  · rw [call?_didOpen hname hlow hhigh]
    exact if_pos rfl
  · rw [call?_didChange hname hlow hhigh]
    cases texts.getLast? with
    | none => rfl
    | some text => exact if_pos rfl
  · rw [call?_didClose hname]
    exact if_pos rfl

end DialogueScript
