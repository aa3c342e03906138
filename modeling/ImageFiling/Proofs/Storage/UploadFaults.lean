import ImageFiling.Proofs.Result
import ImageFiling.Proofs.Storage.ObjectCalls
import ImageFiling.Proofs.Storage.UploadRun
import ImageFiling.Storage.Provider

/-!
# Failed uploads

An upload to the folder service fails as the reading of its last reply fails. Whatever that reply
holds, the failure is told as one of the upload, but for an infinite number as the id of a new
folder, and for a request that the library ends in a way of its own (`upload_failure_by_last_reply`).
An upload to an object store can also fail before it sends anything, if the request cannot be signed
(`ObjectStore.upload_error`).
-/

namespace ImageFiling

/-- A failure that is told as one of an upload. -/
def Failure.IsOfUpload (f : Failure) : Prop := f.kind = .upload ∨ f.kind = .network

theorem Failure.IsOfUpload.ne_infiniteId {f : Failure} (told : f.IsOfUpload) :
    f ≠ .storage .infiniteId := by
  rintro rfl
  rcases told with upload | network
  · cases upload
  · cases network

theorem StorageFault.isOfUpload {f : StorageFault} (finite : f ≠ .infiniteId) :
    (Failure.storage f).IsOfUpload := by
  cases f with
  | infiniteId => exact (finite rfl).elim
  | status | rejected | listing | unknownAnswer => exact .inl rfl
  | connection | unreadable | unreadableBuckets | folderEntry | createdFolder => exact .inr rfl

/-- Why a reply is refused: it is told as a failure of the upload, or there is no reply and the
failure is how the library ended. -/
inductive Http.Reply.Refuses (reply : Http.Reply) : Failure → Prop where
  | told {f : Failure} (told : f.IsOfUpload) : reply.Refuses f
  | raised {reason : Text} (ended : reply = .raised reason) : reply.Refuses (.raised reason)

theorem Http.Reply.Refuses.ne_infiniteId {reply : Http.Reply} {f : Failure}
    (refuses : reply.Refuses f) : f ≠ .storage .infiniteId := by
  cases refuses with
  | told told => exact told.ne_infiniteId
  | raised => nofun

namespace FolderService

variable {account : FolderAccount} {u : Upload} {action : Text} {reply : Http.Reply} {f : Failure}

/-! ### What a reply is refused for -/

theorem rejection_isOfUpload (action : Text) (answer : Json) :
    (Failure.storage (rejection action answer)).IsOfUpload := by
  apply StorageFault.isOfUpload
  unfold rejection
  split <;> simp

theorem valueOf_error (failed : valueOf action reply = .error f) : reply.Refuses f := by
  cases reply with
  | refused reason =>
    cases failed
    exact .told (.inr rfl)
  | response r =>
    unfold valueOf at failed
    dsimp only at failed
    split at failed
    · cases failed
      exact .told (.inl rfl)
    · obtain ⟨reason, -, rfl⟩ := mapError_eq_error.mp failed
      exact .told (.inr rfl)
  | raised reason =>
    cases failed
    exact .raised rfl

theorem answerOf_error (failed : answerOf action reply = .error f) : reply.Refuses f := by
  rcases bind_eq_error.mp failed with unread | ⟨answer, -, refused⟩
  · exact valueOf_error unread
  · split at refused
    · cases refused
    · cases refused
      exact .told (rejection_isOfUpload action answer)

theorem foldersOf_error {parent : Int} {answer : Json}
    (failed : foldersOf parent answer = .error f) :
    f.IsOfUpload := by
  unfold foldersOf at failed
  split at failed
  · split at failed
    · cases failed
    · cases failed
      exact .inr rfl
  · cases failed
    exact .inl rfl

theorem listingOf_error {parent : Int} (failed : listingOf parent reply = .error f) :
    reply.Refuses f := by
  rcases bind_eq_error.mp failed with refused | ⟨answer, -, unlisted⟩
  · exact answerOf_error refused
  · exact .told (foldersOf_error unlisted)

theorem assignedOf_error (failed : assignedOf reply = .error f) : reply.Refuses f := by
  rcases bind_eq_error.mp failed with refused | ⟨answer, -, unassigned⟩
  · exact answerOf_error refused
  · unfold serverOf at unassigned
    split at unassigned
    · cases unassigned
    · cases unassigned
      exact .told (.inl rfl)

theorem storedOf_error (failed : storedOf reply = .error f) : reply.Refuses f := by
  rcases bind_eq_error.mp failed with unread | ⟨stored, -, unnamed⟩
  · exact valueOf_error unread
  · split at unnamed
    · cases unnamed
    · cases unnamed
      exact .told (.inl rfl)

/-- A reply that accepts a new folder and gives an infinite number as its id. -/
def GivesInfiniteId (reply : Http.Reply) : Prop :=
  ∃ answer negative, answerOf "create folder" reply = .ok answer ∧
    (answer.member? "result").bind (·.member? "fld_id") =
      some (.number (.double (.infinite negative)))

theorem createdId_infinite_iff {answer : Json} :
    createdId answer = .error .infiniteId ↔
      ∃ negative, (answer.member? "result").bind (·.member? "fld_id") =
        some (.number (.double (.infinite negative))) := by
  unfold createdId
  generalize (answer.member? "result").bind (·.member? "fld_id") = id
  cases id with
  | none => simp
  | some value =>
    cases value with
    | number n =>
      cases n with
      | int n => simp
      | double x =>
        cases x with
        | infinite negative => simp
        | _ =>
          dsimp only
          split <;> simp
    | text t =>
      dsimp only
      split <;> simp
    | _ => simp

theorem createdOf_infinite_iff :
    createdOf reply = .error (.storage .infiniteId) ↔ GivesInfiniteId reply := by
  constructor
  · intro failed
    rcases bind_eq_error.mp failed with refused | ⟨answer, accepted, unread⟩
    · exact ((answerOf_error refused).ne_infiniteId rfl).elim
    · obtain ⟨fault, read, same⟩ := mapError_eq_error.mp unread
      cases same
      obtain ⟨negative, id⟩ := createdId_infinite_iff.mp read
      exact ⟨answer, negative, accepted, id⟩
  · rintro ⟨answer, negative, accepted, id⟩
    have read := createdId_infinite_iff.mpr ⟨negative, id⟩
    rw [createdOf, accepted]
    change (createdId answer).mapError Failure.storage = _
    rw [read]
    rfl

theorem createdOf_error (failed : createdOf reply = .error f) :
    reply.Refuses f ∨ f = .storage .infiniteId := by
  rcases bind_eq_error.mp failed with refused | ⟨answer, -, unread⟩
  · exact .inl (answerOf_error refused)
  · obtain ⟨fault, -, rfl⟩ := mapError_eq_error.mp unread
    by_cases infinite : fault = .infiniteId
    · exact .inr (congrArg Failure.storage infinite)
    · exact .inl (.told (StorageFault.isOfUpload infinite))

theorem raised_of_refuses {reason : Text} (refuses : reply.Refuses (.raised reason)) :
    reply = .raised reason := by
  cases refuses with
  | told told => rcases told with upload | network <;> contradiction
  | raised ended => exact ended

/-! ### The last exchange -/

/-- An exchange that ends an upload: what was asked for, and why the reply to it was refused. -/
inductive Rejected (account : FolderAccount) (u : Upload) : Exchange → Failure → Prop where
  | listing {parent : Int} {reply : Http.Reply} {f : Failure}
      (read : listingOf parent reply = .error f) :
      Rejected account u ⟨listRequest account parent, reply⟩ f
  | creation {parent : Int} {name : Text} {reply : Http.Reply} {f : Failure}
      (read : createdOf reply = .error f) :
      Rejected account u ⟨createRequest account parent name, reply⟩ f
  | server {reply : Http.Reply} {f : Failure} (read : assignedOf reply = .error f) :
      Rejected account u ⟨serverRequest account, reply⟩ f
  | file {server sessionId : Json} {reply : Http.Reply} {f : Failure}
      (read : storedOf reply = .error f) :
      Rejected account u ⟨fileRequest server sessionId u, reply⟩ f
  | move {code : Json} {folder : Int} {reply : Http.Reply} {f : Failure}
      (read : answerOf "set file folder" reply = .error f) :
      Rejected account u ⟨moveRequest account code folder, reply⟩ f

theorem endpoint_of_callRequest {e e' : Text} {values values' : Json.Members}
    (same : callRequest account e values = callRequest account e' values') : e = e' :=
  List.append_cancel_left (Json.text.inj (congrArg Http.Request.address same))

theorem fileRequest_ne_call {server sessionId : Json} {e : Text} {values : Json.Members} :
    fileRequest server sessionId u ≠ callRequest account e values := by
  intro same
  have methods : "POST".toList = "GET".toList := congrArg Http.Request.method same
  exact absurd methods (by decide)

theorem Rejected.createdOf_eq {x : Exchange} {parent : Int} {name : Text}
    (rejected : Rejected account u x f) (asked : x.request = createRequest account parent name) :
    createdOf x.reply = .error f := by
  cases rejected with
  | creation read => exact read
  | file read => exact (fileRequest_ne_call asked).elim
  | listing | server | move => exact absurd (endpoint_of_callRequest asked) (by decide)

theorem Rejected.refuses {x : Exchange} (rejected : Rejected account u x f) :
    x.reply.Refuses f ∨ f = .storage .infiniteId := by
  cases rejected with
  | listing read => exact .inl (listingOf_error read)
  | creation read => exact createdOf_error read
  | server read => exact .inl (assignedOf_error read)
  | file read => exact .inl (storedOf_error read)
  | move read => exact .inl (answerOf_error read)

theorem Rejected.told {x : Exchange} (rejected : Rejected account u x f) :
    f.kind = .upload ∨ f.kind = .network ∨ f = .storage .infiniteId ∨
      ∃ reason, x.reply = .raised reason ∧ f = .raised reason := by
  rcases rejected.refuses with refuses | infinite
  · cases refuses with
    | told told =>
      rcases told with upload | network
      · exact .inl upload
      · exact .inr (.inl network)
    | raised ended => exact .inr (.inr (.inr ⟨_, ended, rfl⟩))
  · exact .inr (.inr (.inl infinite))

/-- No reading makes anything else of the end of a request than what it is. -/
theorem Rejected.of_raised {x : Exchange} {reason : Text} (rejected : Rejected account u x f)
    (ended : x.reply = .raised reason) : f = .raised reason := by
  cases rejected with
  | listing read | creation read | server read | file read | move read =>
    obtain rfl : _ = Http.Reply.raised reason := ended
    cases read
    rfl

theorem Rejected.creation_of_infinite {x : Exchange} (rejected : Rejected account u x f)
    (infinite : f = .storage .infiniteId) :
    ∃ parent name, x.request = createRequest account parent name ∧ GivesInfiniteId x.reply := by
  cases rejected with
  | listing read => exact ((listingOf_error read).ne_infiniteId infinite).elim
  | creation read =>
    rw [infinite] at read
    exact ⟨_, _, rfl, createdOf_infinite_iff.mp read⟩
  | server read => exact ((assignedOf_error read).ne_infiniteId infinite).elim
  | file read => exact ((storedOf_error read).ne_infiniteId infinite).elim
  | move read => exact ((answerOf_error read).ne_infiniteId infinite).elim

theorem Creation.rejected {parent : Int} {names : List Text} {xs : List Exchange}
    {result : Except Failure Int} (creation : Creation account parent names xs result)
    (failed : result = .error f) :
    ∃ before x, xs = before ++ [x] ∧ Rejected account u x f := by
  induction creation with
  | done => cases failed
  | stopped read =>
    cases failed
    exact ⟨[], _, rfl, .creation read⟩
  | created _ _ ih =>
    obtain ⟨before, x, rfl, rejected⟩ := ih failed
    exact ⟨_ :: before, x, rfl, rejected⟩

theorem Walk.rejected {parent : Int} {names : List Text} {lists creates : List Exchange}
    {result : Except Failure Int} (walk : Walk account parent names lists creates result)
    (failed : result = .error f) :
    ∃ before x, lists ++ creates = before ++ [x] ∧ Rejected account u x f := by
  induction walk with
  | done => cases failed
  | stopped read =>
    cases failed
    exact ⟨[], _, rfl, .listing read⟩
  | found _ _ _ ih =>
    obtain ⟨before, x, last, rejected⟩ := ih failed
    exact ⟨_ :: before, x, congrArg (_ :: ·) last, rejected⟩
  | missing _ _ below =>
    obtain ⟨before, x, rfl, rejected⟩ := below.rejected failed
    exact ⟨_ :: before, x, rfl, rejected⟩

/-- A filing ends with an exchange of its own. It is rejected if the filing fails, and the filing
fails if there is no reply to it. -/
theorem Filing.last {folder : Int} {rest : List Exchange} {result : Except Failure Json}
    (filing : Filing account u folder rest result) :
    ∃ before x, rest = before ++ [x] ∧
      (∀ parent name, x.request ≠ createRequest account parent name) ∧
      (∀ f, result = .error f → Rejected account u x f) ∧
      ∀ code reason, result = .ok code → x.reply ≠ .raised reason := by
  cases filing with
  | unassigned assigned =>
    refine ⟨[], _, rfl, ?_, ?_, nofun⟩
    · intro parent name same
      exact absurd (endpoint_of_callRequest same) (by decide)
    · rintro f ⟨⟩
      exact .server assigned
  | unstored assigned refused =>
    refine ⟨[_], _, rfl, fun _ _ => fileRequest_ne_call, ?_, nofun⟩
    rintro f ⟨⟩
    exact .file refused
  | inRoot assigned accepted root =>
    refine ⟨[_], _, rfl, fun _ _ => fileRequest_ne_call, nofun, ?_⟩
    rintro code reason - rfl
    cases accepted
  | moved assigned accepted notRoot =>
    refine ⟨[_, _], _, rfl, ?_, ?_, ?_⟩
    · intro parent name same
      exact absurd (endpoint_of_callRequest same) (by decide)
    · intro f failed
      rcases bind_eq_error.mp failed with refused | ⟨answer, -, never⟩
      · exact .move refused
      · cases never
    · rintro code reason ends rfl
      cases ends

theorem Uploading.rejected {lists creates rest : List Exchange} {result : Except Failure Json}
    (uploading : Uploading account u lists creates rest result) (failed : result = .error f) :
    ∃ before x, lists ++ creates ++ rest = before ++ [x] ∧ Rejected account u x f := by
  cases uploading with
  | unresolved walk =>
    cases failed
    rw [List.append_nil]
    exact walk.rejected rfl
  | resolved walk filing =>
    obtain ⟨before, x, rfl, -, rejected, -⟩ := filing.last
    exact ⟨lists ++ creates ++ before, x, (List.append_assoc _ _ _).symm, rejected f failed⟩

/-- An upload whose last exchange the library ended in a way of its own fails in that way. -/
theorem Uploading.error_of_raised {lists creates rest before : List Exchange} {x : Exchange}
    {result : Except Failure Json} {reason : Text}
    (uploading : Uploading account u lists creates rest result)
    (last : lists ++ creates ++ rest = before ++ [x]) (ended : x.reply = .raised reason) :
    result = .error (.raised reason) := by
  cases ends : result with
  | error f =>
    obtain ⟨before', x', last', rejected⟩ := uploading.rejected ends
    obtain ⟨-, same⟩ := List.append_inj' (last.symm.trans last') rfl
    cases same
    rw [rejected.of_raised ended]
  | ok code =>
    cases uploading with
    | unresolved => cases ends
    | resolved walk filing =>
      obtain ⟨before', x', rfl, -, -, answered⟩ := filing.last
      rw [← List.append_assoc] at last
      obtain ⟨-, same⟩ := List.append_inj' last rfl
      cases same
      exact (answered code reason ends ended).elim

/-- Only an upload that fails there ends with a creation. -/
theorem Uploading.failed_of_create {lists creates rest before : List Exchange} {x : Exchange}
    {result : Except Failure Json} {parent : Int} {name : Text}
    (uploading : Uploading account u lists creates rest result)
    (last : lists ++ creates ++ rest = before ++ [x])
    (asked : x.request = createRequest account parent name) :
    ∃ f, result = .error f ∧ createdOf x.reply = .error f := by
  cases uploading with
  | @unresolved f walk =>
    obtain ⟨before', x', ends, rejected⟩ := walk.rejected (u := u) rfl
    rw [List.append_nil, ends] at last
    obtain ⟨-, same⟩ := List.append_inj' last rfl
    cases same
    exact ⟨f, rfl, rejected.createdOf_eq asked⟩
  | resolved walk filing =>
    -- The filing adds an exchange after the walk, and that one is no creation.
    obtain ⟨before', x', rfl, other, -, -⟩ := filing.last
    rw [← List.append_assoc] at last
    obtain ⟨-, same⟩ := List.append_inj' last rfl
    cases same
    exact (other parent name asked).elim

/-- An upload fails as its last reply is refused, and it is told so, but for an infinite number as
the id of a new folder, and for a request that the library ends in a way of its own. The first happens
exactly if the last reply accepts a folder and gives it such an id, the second exactly if the last
request ends so. -/
theorem upload_failure_by_last_reply {σ : Type} (account : FolderAccount) (u : Upload) (w : World σ)
    (s : σ) :
    let run := upload account u w s
    let xs := w.exchanges s run.sent
    (∀ f, run.result = .error f → (∃ x, xs.getLast? = some x ∧ Rejected account u x f) ∧
      (f.kind = .upload ∨ f.kind = .network ∨ f = .storage .infiniteId ∨
        ∃ reason, f = .raised reason)) ∧
    (run.result = .error (.storage .infiniteId) ↔
      ∃ x parent name, xs.getLast? = some x ∧ x.request = createRequest account parent name ∧
        GivesInfiniteId x.reply) ∧
    ∀ reason, run.result = .error (.raised reason) ↔
      ∃ x, xs.getLast? = some x ∧ x.reply = .raised reason := by
  obtain ⟨lists, creates, rest, result, t, ran, uploading⟩ := upload_ran account w s u
  dsimp only
  rw [ran.exchanges_eq, ran.result_eq]
  refine ⟨?_, ⟨?_, ?_⟩, fun reason => ⟨?_, ?_⟩⟩
  · intro f failed
    obtain ⟨before, x, ends, rejected⟩ := uploading.rejected failed
    have last : (lists ++ creates ++ rest).getLast? = some x := by
      rw [ends, List.getLast?_concat]
    refine ⟨⟨x, last, rejected⟩, ?_⟩
    rcases rejected.told with upload | network | infinite | ⟨reason, -, raised⟩
    · exact .inl upload
    · exact .inr (.inl network)
    · exact .inr (.inr (.inl infinite))
    · exact .inr (.inr (.inr ⟨reason, raised⟩))
  · intro failed
    obtain ⟨before, x, ends, rejected⟩ := uploading.rejected failed
    obtain ⟨parent, name, asked, infinite⟩ := rejected.creation_of_infinite rfl
    exact ⟨x, parent, name, by rw [ends, List.getLast?_concat], asked, infinite⟩
  · rintro ⟨x, parent, name, last, asked, infinite⟩
    obtain ⟨before, ends⟩ := List.getLast?_eq_some_iff.mp last
    obtain ⟨f, failed, refused⟩ := uploading.failed_of_create ends asked
    have same := refused.symm.trans (createdOf_infinite_iff.mpr infinite)
    rw [failed, Except.error.inj same]
  · intro failed
    obtain ⟨before, x, ends, rejected⟩ := uploading.rejected failed
    have last : (lists ++ creates ++ rest).getLast? = some x := by
      rw [ends, List.getLast?_concat]
    exact ⟨x, last, raised_of_refuses (rejected.refuses.resolve_right nofun)⟩
  · rintro ⟨x, last, ended⟩
    obtain ⟨before, ends⟩ := List.getLast?_eq_some_iff.mp last
    exact uploading.error_of_raised ends ended

/-- An upload to a folder that the service has not got, and creates with an infinite id. -/
theorem infinite_id_not_of_upload :
    let folders := Json.object [("status", .ofInt 200),
      ("result", .object [("folders", .array [])])]
    let created := Json.object [("status", .ofInt 200),
      ("result", .object [("fld_id", .number (.double (.infinite false)))])]
    let run := upload { apiKey := "key" } ⟨"/a", "b.png", [105, 109, 103], some "image/png", none⟩
      (World.scripted ⟨⟨2025, 1, 2⟩, 3, 4, 5, 0, .ok 0⟩) [.answering folders, .answering created]
    ∃ f, run.result = .error f ∧ f.kind = .overflow := by
  exact ⟨.storage .infiniteId, by with_unfolding_all rfl, rfl⟩

end FolderService

/-! ### Object stores -/

namespace ObjectStore

variable {σ : Type} {store : ObjectStore} {w : World σ} {t : σ} {u : Upload} {f : Failure}

/-- Why a request to a URL cannot be signed at a moment. -/
inductive Unsigned (url : Text) (m : Moment) : SignatureV4.Fault → Prop where
  | url {e : Url.Fault} (uncut : Url.split url = .error e) : Unsigned url m (.url e)
  | time {e : TimeFault} (outside : ({ m with utcOffset := .ok 0 } : Moment).toUtc = .error e) :
      Unsigned url m (.time e)

theorem sign_error {d : SignatureV4.Digests} {s : SignatureV4.Signer} {method url : Text}
    {headers : Entries Text} {content : Bytes} {m : Moment} {e : SignatureV4.Fault}
    (failed : SignatureV4.sign d s method url headers content { m with utcOffset := .ok 0 } =
      .error e) : Unsigned url m e := by
  rcases bind_eq_error.mp failed with unprepared | ⟨p, -, never⟩
  · rcases bind_eq_error.mp unprepared with outside | ⟨utc, -, later⟩
    · obtain ⟨g, untold, rfl⟩ := mapError_eq_error.mp outside
      exact .time untold
    · rcases bind_eq_error.mp later with uncut | ⟨parts, -, never⟩
      · obtain ⟨g, cut, rfl⟩ := mapError_eq_error.mp uncut
        exact .url cut
      · cases never
  · cases never

theorem send_error {method url : Text} {headers : Entries Text} {content : Bytes}
    (failed : (store.send method url headers content w t).result = .error f) :
    (∃ e, f = .signing e ∧ Unsigned url (w.clock t) e) ∨
      ∃ x ∈ w.exchanges t (store.send method url headers content w t).sent, x.reply.Refuses f := by
  cases ready : SignatureV4.sign store.digests store.signer method url headers content
      { w.clock t with utcOffset := .ok 0 } with
  | error e =>
    rw [send_of_unsigned ready] at failed
    cases failed
    exact .inl ⟨e, rfl, sign_error ready⟩
  | ok signed =>
    have ran := send_ran ready
    rw [ran.result_eq] at failed
    refine .inr ⟨_, by rw [ran.exchanges_eq]; exact List.mem_singleton_self _, ?_⟩
    cases answered : (w.serve (signedRequest method url signed content) t).1 with
    | refused reason =>
      rw [answered] at failed
      cases failed
      exact .told (.inr rfl)
    | response r =>
      rw [answered] at failed
      cases failed
    | raised reason =>
      rw [answered] at failed
      cases failed
      exact .raised rfl

theorem upload_error (failed : (store.upload u w t).result = .error f) :
    f.IsOfUpload ∨
    (∃ e, f = .signing e ∧
      Unsigned (store.objectUrl (objectKey u.directory u.fileName)) (w.clock t) e) ∨
    ∃ x ∈ w.exchanges t (store.upload u w t).sent, x.reply.Refuses f := by
  unfold upload at failed ⊢
  rw [Session.note_bind] at failed ⊢
  rcases Session.bind_result_error failed with unsent | ⟨r, -, failed⟩
  · rw [Session.bind_of_error unsent]
    exact .inr (send_error unsent)
  · cases accepted : r.isOk with
    | true =>
      simp only [accepted] at failed
      cases failed
    | false =>
      simp only [accepted] at failed
      cases failed
      exact .inl (.inl rfl)

theorem upload_ok {answer : Json} (ends : (store.upload u w t).result = .ok answer) :
    answer = .text (objectKey u.directory u.fileName) := by
  unfold upload at ends
  rw [Session.note_bind] at ends
  obtain ⟨r, -, ends⟩ := Session.bind_result_ok ends
  cases accepted : r.isOk with
  | true =>
    simp only [accepted] at ends
    cases ends
    rfl
  | false =>
    simp only [accepted] at ends
    cases ends

end ObjectStore

/-! ### Any provider -/

namespace Provider

variable {σ : Type} {p : Provider} {w : World σ} {t : σ} {u : Upload} {f : Failure}

/-- The object store of a provider, if it has one. -/
def store? : Provider → Option ObjectStore
  | fileLu _ => none
  | fileLuS5 a => some (ObjectStore.ofAccess a)
  | awsS3 a => some (ObjectStore.ofAccount a)

/-- What is behind a failed upload that is not told as one: a new folder gets an infinite id, the URL
of the object cannot be cut or the time cannot be written when the request is signed, or the library
ends a request in a way of its own. -/
inductive Untold (p : Provider) (u : Upload) (w : World σ) (t : σ) : Failure → Prop where
  | infiniteId {account : FolderAccount} {x : Exchange} (kind : p = .fileLu account)
      (exchanged : x ∈ w.exchanges t (FolderService.upload account u w t).sent)
      (infinite : FolderService.GivesInfiniteId x.reply) : Untold p u w t (.storage .infiniteId)
  | unsigned {store : ObjectStore} {e : SignatureV4.Fault} (kind : p.store? = some store)
      (unsigned : ObjectStore.Unsigned
        (store.objectUrl (ObjectStore.objectKey u.directory u.fileName)) (w.clock t) e) :
      Untold p u w t (.signing e)
  | raised {x : Exchange} {reason : Text}
      (exchanged : x ∈ w.exchanges t (p.client.upload u w t).sent)
      (ended : x.reply = .raised reason) : Untold p u w t (.raised reason)

theorem Untold.of_refuses {x : Exchange}
    (exchanged : x ∈ w.exchanges t (p.client.upload u w t).sent) (refuses : x.reply.Refuses f) :
    f.IsOfUpload ∨ Untold p u w t f := by
  cases refuses with
  | told told => exact .inl told
  | raised ended => exact .inr (.raised exchanged ended)

theorem store_upload_error {store : ObjectStore} (kind : p.store? = some store)
    (uploads : p.client.upload u = (store.upload u : Session σ Json))
    (failed : (p.client.upload u w t).result = .error f) :
    f.IsOfUpload ∨ Untold p u w t f := by
  rw [uploads] at failed
  rcases ObjectStore.upload_error failed with told | ⟨e, rfl, unsigned⟩ | ⟨x, exchanged, refuses⟩
  · exact .inl told
  · exact .inr (.unsigned kind unsigned)
  · rw [← uploads] at exchanged
    exact Untold.of_refuses exchanged refuses

theorem upload_error (failed : (p.client.upload u w t).result = .error f) :
    f.IsOfUpload ∨ Untold p u w t f := by
  cases p with
  | fileLu account =>
    obtain ⟨lists, creates, rest, result, t', ran, uploading⟩ :=
      FolderService.upload_ran account w t u
    obtain ⟨before, x, ends, rejected⟩ := uploading.rejected (ran.result_eq.symm.trans failed)
    have exchanged : x ∈ w.exchanges t (FolderService.upload account u w t).sent := by
      rw [ran.exchanges_eq, ends]
      exact List.mem_append_right before List.mem_cons_self
    rcases rejected.refuses with refuses | infinite
    · exact Untold.of_refuses exchanged refuses
    · obtain ⟨_, _, -, gives⟩ := rejected.creation_of_infinite infinite
      rw [infinite]
      exact .inr (.infiniteId rfl exchanged gives)
  | fileLuS5 a => exact store_upload_error rfl rfl failed
  | awsS3 a => exact store_upload_error rfl rfl failed

/-- Only the folder service can name a file by anything but a text. -/
theorem upload_ok {answer : Json} (ends : (p.client.upload u w t).result = .ok answer) :
    (∃ id, answer = .text id) ∨
      ∃ account, p = .fileLu account ∧
        (FolderService.upload account u w t).result = .ok answer := by
  cases p with
  | fileLu account => exact .inr ⟨account, rfl, ends⟩
  | fileLuS5 a => exact .inl ⟨_, ObjectStore.upload_ok ends⟩
  | awsS3 a => exact .inl ⟨_, ObjectStore.upload_ok ends⟩

end Provider

end ImageFiling
