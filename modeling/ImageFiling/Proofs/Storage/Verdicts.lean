import ImageFiling.Proofs.Storage.UploadFaults

/-!
# Verdicts

Whether a failure is told as one that may pass, and which status is told with it, is decided by the
last exchange alone. A verdict names both for an exchange, from what was asked for and what came back;
`failure_decided` says that failed uploads, walks and lists are told by the verdict on their last
exchange.
-/

namespace ImageFiling

/-- How it is told that an exchange led to a failure: the kind and the status. `accepted` says how if
the reply was accepted. -/
inductive Verdict (accepted : Http.Request → Http.Response → FailureKind → Json → Prop) :
    Exchange → FailureKind → Json → Prop where
  | unreached {q : Http.Request} {reason : Text} :
    Verdict accepted ⟨q, .refused reason⟩ .network .null
  | status {q : Http.Request} {r : Http.Response} (failing : 400 ≤ r.status ∧ r.status ≤ 599) :
    Verdict accepted ⟨q, .response r⟩ .upload (.ofInt r.status)
  | accepted {q : Http.Request} {r : Http.Response} {kind : FailureKind} {given : Json}
    (passing : ¬ (400 ≤ r.status ∧ r.status ≤ 599)) (read : accepted q r kind given) :
    Verdict accepted ⟨q, .response r⟩ kind given

/-- The last of the exchanges leads to a failure, and it has no other verdict than what is told of
it. -/
def DecidesLast (verdict : Exchange → FailureKind → Json → Prop) (xs : List Exchange) (f : Failure) :
    Prop :=
  ∃ before last fault, xs = before ++ [last] ∧ f = .storage fault ∧
    ∀ kind given, verdict last kind given ↔ kind = f.kind ∧ given = fault.statusGiven

/-- Wherever a session fails as an upload does, its last exchange decides how. -/
def FailsByLast {σ α : Type} (verdict : Exchange → FailureKind → Json → Prop) (x : Session σ α) :
    Prop :=
  ∀ w s f, (x w s).result = .error f → f.IsOfUpload →
    DecidesLast verdict (w.exchanges s (x w s).sent) f

namespace FolderService

/-! ### Replies of the folder service -/

/-- A call of an endpoint of the service. -/
def Calls (endpoint : Text) (q : Http.Request) : Prop :=
  q.method = "GET" ∧ q.address = .text (base ++ endpoint)

/-- A value that can be read as the id of a new folder. -/
inductive IsId : Json → Prop where
  | bool (b : Bool) : IsId (.bool b)
  | int (n : Int) : IsId (.number (.int n))
  | double {x : Double} {n : Int} (finite : x.truncated? = some n) : IsId (.number (.double x))
  | text {t : Text} {n : Int} (read : Text.integer? t = some n) : IsId (.text t)

def GivesId (answer : Json) : Prop :=
  ∃ id, (answer.member? "result").bind (·.member? "fld_id") = some id ∧ IsId id

/-- A list of folders with an entry that is none. -/
def HasUnusableEntry (answer : Json) : Prop :=
  ∃ entries entry, (answer.member? "result").bind (·.member? "folders") = some (.array entries) ∧
    entry ∈ entries ∧ folder? entry = none

/-- How a failure is told that an accepted reply of the folder service led to. -/
inductive Reading (q : Http.Request) (r : Http.Response) : FailureKind → Json → Prop where
  | unreadable {reason : Text} (json : r.json = .error reason) : Reading q r .network .null
  | rejected {answer : Json} (json : r.json = .ok answer) (call : q.method = "GET")
    (failed : isSuccess answer = false) :
    Reading q r .upload ((answer.member? "status").getD .null)
  | entry {answer : Json} (json : r.json = .ok answer) (success : isSuccess answer = true)
    (call : Calls "folder/list" q) (unusable : HasUnusableEntry answer) : Reading q r .network .null
  | created {answer : Json} (json : r.json = .ok answer) (success : isSuccess answer = true)
    (call : Calls "folder/create" q) (unusable : ¬ GivesId answer) : Reading q r .network .null
  | other {answer : Json} (json : r.json = .ok answer)
    (success : q.method = "GET" → isSuccess answer = true)
    (entries : Calls "folder/list" q → ¬ HasUnusableEntry answer)
    (id : Calls "folder/create" q → GivesId answer) : Reading q r .upload .null

end FolderService

namespace ObjectStore

/-- How a failure is told that an accepted reply of an object store led to. -/
inductive Reading (q : Http.Request) (r : Http.Response) : FailureKind → Json → Prop where
  | unreadable (call : q.method = "GET") (xml : Xml.parse? r.text = none) :
    Reading q r .network .null
  | other (parsed : q.method = "GET" → Xml.parse? r.text ≠ none) : Reading q r .upload .null

end ObjectStore

/-! ### One verdict for each exchange -/

section

variable {accepted : Http.Request → Http.Response → FailureKind → Json → Prop}

theorem isOk_iff {r : Http.Response} :
    r.isOk = true ↔ ¬ (400 ≤ r.status ∧ r.status ≤ 599) := by
  simp only [Http.Response.isOk, Bool.or_eq_true, decide_eq_true_eq]
  omega

/-- What is read from a reply tells a failure in one way only. -/
def TellsOnce (accepted : Http.Request → Http.Response → FailureKind → Json → Prop) : Prop :=
  ∀ q r kind kind' given given', accepted q r kind given → accepted q r kind' given' →
    kind = kind' ∧ given = given'

theorem Verdict.unique (once : TellsOnce accepted) {x : Exchange} {kind kind' : FailureKind}
    {given given' : Json} (first : Verdict accepted x kind given)
    (second : Verdict accepted x kind' given') : kind = kind' ∧ given = given' := by
  cases first with
  | unreached =>
    cases second with
    | unreached => exact ⟨rfl, rfl⟩
  | status failing =>
    cases second with
    | status => exact ⟨rfl, rfl⟩
    | accepted passing => exact (passing failing).elim
  | accepted passing read =>
    cases second with
    | status failing => exact (passing failing).elim
    | accepted _ read' => exact once _ _ _ _ _ _ read read'

/-- A failure is told by the verdict on an exchange. -/
def Tells (accepted : Http.Request → Http.Response → FailureKind → Json → Prop) (x : Exchange)
    (f : Failure) : Prop :=
  ∃ fault, f = .storage fault ∧ Verdict accepted x f.kind fault.statusGiven

theorem Tells.decidesLast {x : Exchange} {f : Failure} (tells : Tells accepted x f)
    (once : TellsOnce accepted) {xs before : List Exchange} (ends : xs = before ++ [x]) :
    DecidesLast (Verdict accepted) xs f := by
  obtain ⟨fault, rfl, told⟩ := tells
  refine ⟨before, x, fault, ends, rfl, fun kind given => ⟨?_, ?_⟩⟩
  · intro verdict
    exact verdict.unique once told
  · rintro ⟨rfl, rfl⟩
    exact told

end

/-! ### Failures that no verdict tells -/

theorem not_isOfUpload_raised (reason : Text) : ¬ (Failure.raised reason).IsOfUpload := by
  simp [Failure.IsOfUpload, Failure.kind]

theorem not_isOfUpload_signing (e : SignatureV4.Fault) : ¬ (Failure.signing e).IsOfUpload := by
  cases e with
  | url e => simp [Failure.IsOfUpload, Failure.kind, SignatureV4.Fault.kind]
  | time e => cases e <;> simp [Failure.IsOfUpload, Failure.kind, SignatureV4.Fault.kind,
      TimeFault.kind]

theorem FolderService.tellsOnce : TellsOnce FolderService.Reading := by
  intro q r kind kind' given given' first second
  cases first <;> cases second <;> simp_all

theorem ObjectStore.tellsOnce : TellsOnce ObjectStore.Reading := by
  intro q r kind kind' given given' first second
  cases first <;> cases second <;> simp_all

namespace FolderService

variable {account : FolderAccount} {u : Upload} {q : Http.Request} {action : Text}
  {reply : Http.Reply} {f : Failure}

/-! ### What the readings fail with -/

theorem valueOf_tells (failed : valueOf action reply = .error f) (told : f.IsOfUpload) :
    Tells Reading ⟨q, reply⟩ f := by
  cases reply with
  | refused reason =>
    cases failed
    exact ⟨_, rfl, .unreached⟩
  | response r =>
    unfold valueOf at failed
    dsimp only at failed
    split at failed
    · next refused =>
      cases failed
      have failing : 400 ≤ r.status ∧ r.status ≤ 599 := by
        by_contra passing
        rw [isOk_iff.mpr passing] at refused
        cases refused
      exact ⟨_, rfl, .status failing⟩
    · next accepted =>
      obtain ⟨reason, json, rfl⟩ := mapError_eq_error.mp failed
      have passing := isOk_iff.mp (by simpa using accepted)
      exact ⟨_, rfl, .accepted passing (.unreadable json)⟩
  | raised reason =>
    cases failed
    exact (not_isOfUpload_raised reason told).elim

theorem valueOf_ok {value : Json} (read : valueOf action reply = .ok value) :
    ∃ r, reply = .response r ∧ ¬ (400 ≤ r.status ∧ r.status ≤ 599) ∧ r.json = .ok value := by
  cases reply with
  | refused reason => cases read
  | response r =>
    unfold valueOf at read
    dsimp only at read
    split at read
    · cases read
    · next accepted =>
      exact ⟨r, rfl, isOk_iff.mp (by simpa using accepted), mapError_eq_ok.mp read⟩
  | raised reason => cases read

theorem answerOf_ok {answer : Json} (read : answerOf action reply = .ok answer) :
    ∃ r, reply = .response r ∧ ¬ (400 ≤ r.status ∧ r.status ≤ 599) ∧ r.json = .ok answer ∧
      isSuccess answer = true := by
  obtain ⟨value, got, checked⟩ := bind_eq_ok.mp read
  split at checked
  · next success =>
    cases checked
    obtain ⟨r, same, passing, json⟩ := valueOf_ok got
    exact ⟨r, same, passing, json, success⟩
  · cases checked

theorem rejection_kind (action : Text) (answer : Json) :
    (Failure.storage (rejection action answer)).kind = .upload := by
  unfold rejection
  split <;> rfl

theorem rejection_statusGiven (action : Text) (answer : Json) :
    (rejection action answer).statusGiven = (answer.member? "status").getD .null := by
  cases answer <;> rfl

theorem answerOf_tells (call : q.method = "GET") (failed : answerOf action reply = .error f)
    (told : f.IsOfUpload) : Tells Reading ⟨q, reply⟩ f := by
  rcases bind_eq_error.mp failed with unread | ⟨answer, read, refused⟩
  · exact valueOf_tells unread told
  · split at refused
    · cases refused
    · next failing =>
      cases refused
      obtain ⟨r, rfl, passing, json⟩ := valueOf_ok read
      refine ⟨_, rfl, .accepted passing ?_⟩
      rw [rejection_kind, rejection_statusGiven]
      exact .rejected json call (eq_false_of_ne_true failing)

theorem mapM_folder?_eq_none {entries : List Json} (none : entries.mapM folder? = none) :
    ∃ entry ∈ entries, folder? entry = .none := by
  induction entries with
  | nil => cases none
  | cons entry rest ih =>
    cases first : folder? entry with
    | none => exact ⟨entry, List.mem_cons_self, first⟩
    | some folder =>
      have later : rest.mapM folder? = .none := by
        cases others : rest.mapM folder? with
        | none => rfl
        | some folders => simp [first, others] at none
      obtain ⟨unusable, member, bad⟩ := ih later
      exact ⟨unusable, List.mem_cons_of_mem _ member, bad⟩

theorem listingOf_tells {parent : Int} (failed : listingOf parent reply = .error f)
    (told : f.IsOfUpload) : Tells Reading ⟨listRequest account parent, reply⟩ f := by
  rcases bind_eq_error.mp failed with refused | ⟨answer, accepted, unlisted⟩
  · exact answerOf_tells rfl refused told
  · obtain ⟨r, rfl, passing, json, success⟩ := answerOf_ok accepted
    unfold foldersOf at unlisted
    split at unlisted
    · next entries listed =>
      split at unlisted
      · cases unlisted
      · next none =>
        cases unlisted
        obtain ⟨entry, member, bad⟩ := mapM_folder?_eq_none none
        exact ⟨_, rfl, .accepted passing
          (.entry json success ⟨rfl, rfl⟩ ⟨entries, entry, listed, member, bad⟩)⟩
    · next other =>
      cases unlisted
      refine ⟨_, rfl, .accepted passing (.other json (fun _ => success) ?_ ?_)⟩
      · rintro - ⟨entries, -, listed, -⟩
        exact other entries listed
      · rintro ⟨-, address⟩
        exact absurd (List.append_cancel_left (Json.text.inj address)) (by decide)

/-- What cannot be read as an id is an infinite number or no id at all. -/
theorem createdId_error {answer : Json} {fault : StorageFault}
    (failed : createdId answer = .error fault) :
    fault = .infiniteId ∨ fault = .createdFolder answer ∧ ¬ GivesId answer := by
  unfold createdId at failed
  split at failed
  · cases failed
  · cases failed
  · cases failed
    exact .inl rfl
  · next x other given =>
    split at failed
    · cases failed
    · next endless =>
      cases failed
      refine .inr ⟨rfl, ?_⟩
      rintro ⟨id, same, isId⟩
      obtain rfl := Option.some.inj (given.symm.trans same)
      cases isId with
      | double finite => cases endless.symm.trans finite
  · next t given =>
    split at failed
    · cases failed
    · next unread =>
      cases failed
      refine .inr ⟨rfl, ?_⟩
      rintro ⟨id, same, isId⟩
      obtain rfl := Option.some.inj (given.symm.trans same)
      cases isId with
      | text read => cases unread.symm.trans read
  · next noBool noInt noInfinite noDouble noText =>
    cases failed
    refine .inr ⟨rfl, ?_⟩
    rintro ⟨id, same, isId⟩
    cases isId with
    | bool b => exact noBool b same
    | int n => exact noInt n same
    | double => exact noDouble _ same
    | text => exact noText _ same

theorem createdOf_tells {parent : Int} {name : Text} (failed : createdOf reply = .error f)
    (told : f.IsOfUpload) : Tells Reading ⟨createRequest account parent name, reply⟩ f := by
  rcases bind_eq_error.mp failed with refused | ⟨answer, accepted, unread⟩
  · exact answerOf_tells rfl refused told
  · obtain ⟨r, rfl, passing, json, success⟩ := answerOf_ok accepted
    obtain ⟨fault, noId, rfl⟩ := mapError_eq_error.mp unread
    rcases createdId_error noId with rfl | ⟨rfl, unusable⟩
    · exact (told.ne_infiniteId rfl).elim
    · exact ⟨_, rfl, .accepted passing (.created json success ⟨rfl, rfl⟩ unusable)⟩

/-- An accepted answer to a request that neither lists folders nor creates one. -/
theorem tells_unknown {r : Http.Response} {answer : Json}
    (passing : ¬ (400 ≤ r.status ∧ r.status ≤ 599)) (json : r.json = .ok answer)
    (success : q.method = "GET" → isSuccess answer = true) (list : ¬ Calls "folder/list" q)
    (create : ¬ Calls "folder/create" q) :
    Tells Reading ⟨q, .response r⟩ (.storage (.unknownAnswer answer)) :=
  ⟨_, rfl, .accepted passing (.other json success (fun call => (list call).elim)
    (fun call => (create call).elim))⟩

theorem not_calls_of_endpoint {endpoint other : Text} {values : Json.Members}
    (different : endpoint ≠ other) : ¬ Calls other (callRequest account endpoint values) := by
  rintro ⟨-, address⟩
  exact different (List.append_cancel_left (Json.text.inj address))

theorem assignedOf_tells (failed : assignedOf reply = .error f) (told : f.IsOfUpload) :
    Tells Reading ⟨serverRequest account, reply⟩ f := by
  rcases bind_eq_error.mp failed with refused | ⟨answer, accepted, unassigned⟩
  · exact answerOf_tells rfl refused told
  · obtain ⟨r, rfl, passing, json, success⟩ := answerOf_ok accepted
    unfold serverOf at unassigned
    split at unassigned
    · cases unassigned
    · cases unassigned
      exact tells_unknown passing json (fun _ => success) (not_calls_of_endpoint (by decide))
        (not_calls_of_endpoint (by decide))

theorem storedOf_tells {server sessionId : Json} (failed : storedOf reply = .error f)
    (told : f.IsOfUpload) : Tells Reading ⟨fileRequest server sessionId u, reply⟩ f := by
  have post : (fileRequest server sessionId u).method ≠ "GET".toList := by
    show "POST".toList ≠ "GET".toList
    decide
  rcases bind_eq_error.mp failed with unread | ⟨stored, read, unnamed⟩
  · exact valueOf_tells unread told
  · obtain ⟨r, rfl, passing, json⟩ := valueOf_ok read
    split at unnamed
    · cases unnamed
    · cases unnamed
      exact tells_unknown passing json (fun get => (post get).elim) (fun call => post call.1)
        (fun call => post call.1)

theorem Rejected.tells {x : Exchange} (rejected : Rejected account u x f) (told : f.IsOfUpload) :
    Tells Reading x f := by
  cases rejected with
  | listing read => exact listingOf_tells read told
  | creation read => exact createdOf_tells read told
  | server read => exact assignedOf_tells read told
  | file read => exact storedOf_tells read told
  | move read => exact answerOf_tells rfl read told

/-! ### Runs -/

variable {σ : Type}

theorem upload_failsByLast (account : FolderAccount) (u : Upload) :
    FailsByLast (Verdict Reading) (upload account u : Session σ Json) := by
  intro w s f failed told
  obtain ⟨lists, creates, rest, result, t, ran, uploading⟩ := upload_ran account w s u
  obtain ⟨before, x, ends, rejected⟩ := uploading.rejected (ran.result_eq.symm.trans failed)
  rw [ran.exchanges_eq]
  exact (rejected.tells told).decidesLast tellsOnce ends

theorem resolve_failsByLast (account : FolderAccount) (directory : Text) :
    FailsByLast (Verdict Reading) (resolve account directory : Session σ Int) := by
  intro w s f failed told
  obtain ⟨lists, creates, result, t, ran, walk⟩ :=
    descend_ran account w s rootId 0 (segments directory)
  obtain ⟨before, x, ends, rejected⟩ := walk.rejected
    (u := ⟨directory, [], [], none, none⟩) (ran.result_eq.symm.trans failed)
  have exchanges : w.exchanges s (resolve account directory w s).sent = lists ++ creates :=
    ran.exchanges_eq
  rw [exchanges]
  exact (rejected.tells told).decidesLast tellsOnce ends

end FolderService

namespace ObjectStore

variable {σ : Type} {store : ObjectStore} {w : World σ} {s : σ} {u : Upload} {f : Failure}
  {method url : Text} {headers : Entries Text} {content : Bytes}

/-- A request that is made decides over what follows it, if that makes no other one and fails by the
verdict on it. -/
theorem send_failsByLast {α : Type} (store : ObjectStore) {method : Text} (url : Text)
    (headers : Entries Text) (content : Bytes) {next : Http.Response → Session σ α}
    (reads : ∀ q r w s, q.method = method → ∃ result, Session.Ran (next r) w s [] result s ∧
      ∀ f, result = .error f → Tells Reading ⟨q, .response r⟩ f) :
    FailsByLast (Verdict Reading) (store.send method url headers content >>= next) := by
  intro w s f failed told
  cases ready : SignatureV4.sign store.digests store.signer method url headers content
      { w.clock s with utcOffset := .ok 0 } with
  | error e =>
    have unsigned : (store.send method url headers content w s).result = .error (.signing e) := by
      rw [send_of_unsigned ready]
    rw [Session.bind_of_error unsigned] at failed
    cases failed
    exact (not_isOfUpload_signing e told).elim
  | ok signed =>
    have ran := send_ran ready
    cases answered : (w.serve (signedRequest method url signed content) s).1 with
    | refused reason =>
      rw [answered] at ran
      have run := ran.bind_error (f := next)
      rw [run.result_eq] at failed
      cases failed
      rw [run.exchanges_eq]
      exact Tells.decidesLast ⟨_, rfl, .unreached⟩ tellsOnce (List.nil_append _).symm
    | response r =>
      rw [answered] at ran
      obtain ⟨result, read, tells⟩ := reads (signedRequest method url signed content) r w _ rfl
      have run := ran.bind read
      rw [run.exchanges_eq]
      exact (tells f (run.result_eq.symm.trans failed)).decidesLast tellsOnce
        (List.nil_append _).symm
    | raised reason =>
      rw [answered] at ran
      rw [(ran.bind_error (f := next)).result_eq] at failed
      cases failed
      exact (not_isOfUpload_raised reason told).elim

theorem status_tells {q : Http.Request} {r : Http.Response} (refused : r.isOk = false)
    (action detail : Text) :
    Tells Reading ⟨q, .response r⟩ (.storage (.status action r.status detail)) := by
  refine ⟨_, rfl, .status ?_⟩
  by_contra passing
  rw [isOk_iff.mpr passing] at refused
  cases refused

theorem listBuckets_failsByLast (store : ObjectStore) :
    FailsByLast (Verdict Reading) (store.listBuckets : Session σ (List Text)) := by
  apply send_failsByLast
  intro q r w s asked
  cases accepted : r.isOk with
  | false =>
    refine ⟨_, Session.ended_ran _ w s, ?_⟩
    rintro f ⟨⟩
    exact status_tells accepted _ _
  | true =>
    cases parsed : Xml.parse? r.text with
    | none =>
      refine ⟨_, Session.ended_ran _ w s, ?_⟩
      rintro f ⟨⟩
      exact ⟨_, rfl, .accepted (isOk_iff.mp accepted) (.unreadable asked parsed)⟩
    | some root =>
      refine ⟨_, Session.ended_ran _ w s, ?_⟩
      rintro f ⟨⟩

theorem upload_failsByLast (store : ObjectStore) (u : Upload) :
    FailsByLast (Verdict Reading) (store.upload u : Session σ Json) := by
  intro w s f failed told
  unfold upload at failed ⊢
  rw [Session.note_bind] at failed ⊢
  refine send_failsByLast store _ _ _ ?_ w s f failed told
  intro q r w s asked
  cases accepted : r.isOk with
  | false =>
    refine ⟨_, Session.ended_ran _ w s, ?_⟩
    rintro f ⟨⟩
    exact status_tells accepted _ _
  | true =>
    refine ⟨_, (Session.note_ran _ _ w s).bind (Session.pure_ran _ w s), ?_⟩
    rintro f ⟨⟩

end ObjectStore

/-- Uploads, walks to folders and lists of buckets fail as the last exchange decides, whatever the
replies before it were. -/
theorem failure_decided {σ : Type} (account : FolderAccount) (directory : Text) (store : ObjectStore)
    (u : Upload) :
    FailsByLast (Verdict FolderService.Reading) (FolderService.upload account u : Session σ Json) ∧
    FailsByLast (Verdict FolderService.Reading)
      (FolderService.resolve account directory : Session σ Int) ∧
    FailsByLast (Verdict ObjectStore.Reading) (store.upload u : Session σ Json) ∧
    FailsByLast (Verdict ObjectStore.Reading) (store.listBuckets : Session σ (List Text)) :=
  ⟨FolderService.upload_failsByLast account u, FolderService.resolve_failsByLast account directory,
    store.upload_failsByLast u, store.listBuckets_failsByLast⟩

/-- A service that does not know the key is told with its status; one out of reach is told without. -/
theorem denied_then_unreached :
    let denied := Json.object [("status", .ofInt 403), ("msg", .text "no such key")]
    let world := World.scripted ⟨⟨2025, 1, 2⟩, 3, 4, 5, 0, .ok 0⟩
    let sent (replies : List Http.Reply) := world.exchanges replies
      (FolderService.resolve { apiKey := "key" } "/a" world replies).sent
    DecidesLast (Verdict FolderService.Reading) (sent [.answering denied])
        (.storage (.rejected "list folders" (.ofInt 403) (.text "no such key"))) ∧
      DecidesLast (Verdict FolderService.Reading) (sent []) (.storage (.connection "no reply")) := by
  have decided := (failure_decided (σ := List Http.Reply) { apiKey := "key" } "/a"
    ⟨"s5lu.com", "pictures", true, ⟨"id", "secret", "global", "s3"⟩, SignatureV4.sha256⟩
    ⟨"/a", "b.png", [], none, none⟩).2.1
  exact ⟨decided _ _ _ (by with_unfolding_all rfl) (.inl rfl),
    decided _ _ _ (by with_unfolding_all rfl) (.inr rfl)⟩

end ImageFiling
