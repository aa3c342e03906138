import Mathlib.Data.List.Find
import Mathlib.Data.List.Nodup
import ImageFiling.Proofs.Storage.Catalogue
import ImageFiling.Proofs.Storage.UploadFaults

/-!
# Order of listings

A service lists folders in an order of its own, and the list is sorted before it is looked through.
`descend_cons` says that this shows in nothing: a name is looked up in the order of the listing.
`resolve_order_independent` tells the walk by these orders, and says that worlds in which no order
matters for a single look-up lead to the same folder by the same requests.
-/

namespace ImageFiling

/-! ### Sessions in two worlds -/

/-- Two sessions sent the same and ended alike, in states that belong together. -/
structure Outcome.Matches {σ τ α : Type} (together : σ → τ → Prop) (o : Outcome σ α)
    (o' : Outcome τ α) : Prop where
  result_eq : o'.result = o.result
  sent_eq : o'.sent = o.sent
  together : together o.state o'.state

namespace Session

variable {σ τ α β : Type} {together : σ → τ → Prop} {w : World σ} {w' : World τ} {s : σ} {s' : τ}

theorem matches_ended (w : World σ) (w' : World τ) (start : together s s')
    (result : Except Failure α) : (ended result w s).Matches together (ended result w' s') :=
  ⟨rfl, rfl, start⟩

theorem matches_note (w : World σ) (w' : World τ) (start : together s s') (level : LogLevel)
    (message : Text) :
    (note level message w s).Matches together (note level message w' s') := ⟨rfl, rfl, start⟩

theorem matches_bind {x : Session σ α} {y : Session τ α} {f : α → Session σ β}
    {g : α → Session τ β} (first : (x w s).Matches together (y w' s'))
    (second : ∀ a t t', together t t' → (f a w t).Matches together (g a w' t')) :
    ((x >>= f) w s).Matches together ((y >>= g) w' s') := by
  cases ends : (x w s).result with
  | error e =>
    have ends' : (y w' s').result = .error e := first.result_eq.trans ends
    rw [bind_of_error ends, bind_of_error ends']
    exact ⟨rfl, first.sent_eq, first.together⟩
  | ok a =>
    have ends' : (y w' s').result = .ok a := first.result_eq.trans ends
    have later := second a _ _ first.together
    rw [bind_of_ok ends, bind_of_ok ends']
    exact ⟨later.result_eq, by rw [first.sent_eq, later.sent_eq], later.together⟩

theorem matches_ask {r : Http.Request} {read : Http.Reply → Except Failure α}
    (alike : read (w'.serve r s').1 = read (w.serve r s).1)
    (next : together (w.serve r s).2 (w'.serve r s').2) :
    (ask r read w s).Matches together (ask r read w' s') := by
  have ran := ask_ran r read w s
  have ran' := ask_ran r read w' s'
  refine ⟨?_, ?_, ?_⟩
  · rw [ran.result_eq, ran'.result_eq, alike]
  · rw [ran.sent_eq, ran'.sent_eq]
    rfl
  · rw [ran.state_eq, ran'.state_eq]
    exact next

end Session

namespace FolderService

open Session

/-! ### Listings -/

/-- A reply that lists these folders, in this order. -/
def IsListing (reply : Http.Reply) (fs : List Folder) : Prop :=
  ∃ response answer entries, reply = .response response ∧ response.isOk = true ∧
    response.json = .ok answer ∧ isSuccess answer = true ∧
    (answer.member? "result").bind (·.member? "folders") = some (.array entries) ∧
    List.Forall₂ (fun entry f => folder? entry = some f) entries fs

/-- Two replies list the same folders, of which no two have names that differ in case alone. -/
def IsReordering (reply reply' : Http.Reply) : Prop :=
  ∃ fs fs', IsListing reply fs ∧ IsListing reply' fs' ∧ fs.Perm fs' ∧
    (fs.map fun f => Text.lower f.name).Nodup

/-- Two worlds answer alike, but for the order in which they list folders. -/
structure ListAlike {σ τ : Type} (w : World σ) (w' : World τ) (together : σ → τ → Prop) : Prop where
  replies : ∀ {s s'}, together s s' → ∀ r, (w'.serve r s').1 = (w.serve r s).1 ∨
    (∃ parent, AsksFolders r parent) ∧ IsReordering (w.serve r s).1 (w'.serve r s').1
  states : ∀ {s s'}, together s s' → ∀ r, together (w.serve r s).2 (w'.serve r s').2

theorem IsListing.listingOf_eq {reply : Http.Reply} {fs : List Folder} (listing : IsListing reply fs)
    (parent : Int) : listingOf parent reply = .ok fs := by
  obtain ⟨response, answer, entries, rfl, accepted, json, success, listed, are⟩ := listing
  rw [listingOf, answerOf_of_success accepted json success]
  exact foldersOf_of_entries listed are parent

/-! ### Look-ups -/

/-- The folder of a name that a reply lists first. -/
def lookedUp (parent : Int) (name : Text) (reply : Http.Reply) : Except Failure (Option Folder) :=
  List.find? (·.key = Text.lower name) <$> listingOf parent reply

variable {σ τ : Type} {account : FolderAccount}

theorem descend_cons (parent : Int) (level : Nat) (name : Text) (rest : List Text) :
    (descend account parent level (name :: rest) : Session σ Int) =
      ask (listRequest account parent) (lookedUp parent name) >>= fun
        | some f => descend account f.id (level + 1) rest
        | none => createAll account parent level (name :: rest) := by
  have read : (fun reply => List.find? (·.key = Text.lower name) <$> sorted <$> listingOf parent reply) =
      lookedUp parent name := by
    funext reply
    unfold lookedUp
    cases listingOf parent reply with
    | error e => rfl
    | ok fs => exact congrArg Except.ok (find?_sorted name fs)
  have look : (ask (listRequest account parent) (lookedUp parent name) : Session σ (Option Folder)) =
      folders account parent >>= fun fs => ended (.ok (fs.find? (·.key = Text.lower name))) := by
    rw [← read, folders_eq]
    exact (ask_bind fun _ => rfl).symm
  rw [look, bind_assoc]
  rfl

theorem lookedUp_reordered {reply reply' : Http.Reply} (reordering : IsReordering reply reply')
    (parent : Int) (name : Text) : lookedUp parent name reply' = lookedUp parent name reply := by
  obtain ⟨fs, fs', listing, listing', perm, distinct⟩ := reordering
  unfold lookedUp
  rw [listing.listingOf_eq, listing'.listingOf_eq]
  refine congrArg Except.ok (List.find?_eq_find?_of_perm perm ?_).symm
  rintro f ⟨inside, same⟩ g ⟨inside', same'⟩
  have keys : f.key = g.key := (of_decide_eq_true same).trans (of_decide_eq_true same').symm
  exact List.inj_on_of_nodup_map distinct inside inside' keys

theorem createRequest_not_asks (parent id : Int) (name : Text) :
    ¬ AsksFolders (createRequest account parent name) id := by
  intro asks
  have same := List.append_cancel_left (Json.text.inj asks.address)
  exact absurd same (by decide)

/-! ### The walk by the orders of the listings -/

theorem Creation.asks {parent : Int} {names : List Text} {xs : List Exchange}
    {result : Except Failure Int} (creation : Creation account parent names xs result) :
    ∀ x ∈ xs, ∃ id name, x.request = createRequest account id name := by
  induction creation with
  | done => simp
  | stopped => simp
  | created _ _ ih => exact List.forall_mem_cons.mpr ⟨⟨_, _, rfl⟩, ih⟩

theorem Creation.first {parent : Int} {name : Text} {rest : List Text} {xs : List Exchange}
    {result : Except Failure Int} (creation : Creation account parent (name :: rest) xs result) :
    ∃ reply, xs[0]? = some ⟨createRequest account parent name, reply⟩ := by
  cases creation <;> exact ⟨_, rfl⟩

theorem Walk.first {parent : Int} {name : Text} {rest : List Text} {lists creates : List Exchange}
    {result : Except Failure Int}
    (walk : Walk account parent (name :: rest) lists creates result) :
    ∃ reply, (lists ++ creates)[0]? = some ⟨listRequest account parent, reply⟩ := by
  cases walk <;> exact ⟨_, rfl⟩

/-- What follows a listing: the walk goes on in the folder of the wanted name that is listed first,
and is over there with the last name; if no folder of the name is listed, it is created. -/
structure GoesOn (account : FolderAccount) (names : List Text) (xs : List Exchange)
    (result : Except Failure Int) (k : Nat) (parent : Int) (name : Text) (fs : List Folder) :
    Prop where
  below : ∀ f, fs.find? (fun f => Text.lower f.name = Text.lower name) = some f →
    ∀ next ∈ names[k + 1]?, ∃ reply, xs[k + 1]? = some ⟨listRequest account f.id, reply⟩
  arrived : ∀ f, fs.find? (fun f => Text.lower f.name = Text.lower name) = some f →
    names.length = k + 1 → xs.length = k + 1 ∧ result = .ok f.id
  missing : (∀ f ∈ fs, Text.lower f.name ≠ Text.lower name) →
    ∃ reply, xs[k + 1]? = some ⟨createRequest account parent name, reply⟩

theorem Walk.goesOn {start : Int} {names : List Text} {lists creates : List Exchange}
    {result : Except Failure Int} (walk : Walk account start names lists creates result)
    {k : Nat} {parent : Int} {reply : Http.Reply} {name : Text} {fs : List Folder}
    (asked : (lists ++ creates)[k]? = some ⟨listRequest account parent, reply⟩)
    (wanted : names[k]? = some name) (listing : IsListing reply fs) :
    GoesOn account names (lists ++ creates) result k parent name fs := by
  -- The first exchange of a walk is its listing, and those after it are the walk below.
  induction walk generalizing k with
  | done => cases wanted
  | @stopped _ _ _ reply' e read =>
    cases k with
    | zero =>
      cases asked
      rw [listing.listingOf_eq] at read
      cases read
    | succ k => cases asked
  | @found start first rest reply' fs' f lists creates result read look below ih =>
    cases k with
    | zero =>
      cases asked
      cases wanted
      rw [listing.listingOf_eq] at read
      cases read
      refine ⟨?_, ?_, ?_⟩
      · intro g look' next isNext
        obtain rfl : f = g := Option.some.inj (look.symm.trans look')
        cases rest with
        | nil => cases isNext
        | cons => exact below.first
      · intro g look' last
        obtain rfl : f = g := Option.some.inj (look.symm.trans look')
        obtain rfl : rest = [] := List.eq_nil_of_length_eq_zero (Nat.succ.inj last)
        cases below
        exact ⟨rfl, rfl⟩
      · intro lacks
        have same : f.key = Text.lower name := by simpa using List.find?_some look
        exact (lacks f (List.mem_of_find?_eq_some look) same).elim
    | succ k =>
      have later := ih asked wanted
      exact ⟨later.below, fun g look' last =>
        (later.arrived g look' (Nat.succ.inj last)).imp_left (congrArg Nat.succ), later.missing⟩
  | @missing start first rest reply' fs' creates result read look below =>
    cases k with
    | zero =>
      cases asked
      cases wanted
      rw [listing.listingOf_eq] at read
      cases read
      have none (g : Folder)
          (look' : fs.find? (fun f => Text.lower f.name = Text.lower name) = some g) : False := by
        cases look.symm.trans look'
      exact ⟨fun g look' => (none g look').elim, fun g look' => (none g look').elim,
        fun _ => below.first⟩
    | succ k =>
      obtain ⟨id, other, created⟩ := below.asks _ (List.mem_of_getElem? asked)
      exact absurd (endpoint_of_callRequest created) (by decide)

/-! ### The walk in two worlds -/

variable {w : World σ} {w' : World τ} {together : σ → τ → Prop}

theorem createAll_matches (alike : ListAlike w w' together) {s : σ} {s' : τ} (start : together s s')
    (parent : Int) (level : Nat) (names : List Text) :
    (createAll account parent level names w s).Matches together
      (createAll account parent level names w' s') := by
  induction names generalizing s s' parent level with
  | nil => exact matches_ended w w' start _
  | cons name rest ih =>
    unfold createAll
    rw [create_eq, create_eq]
    refine matches_bind (matches_ask ?_ (alike.states start _)) ?_
    · rcases alike.replies start (createRequest account parent name) with same | ⟨⟨id, asks⟩, -⟩
      · rw [same]
      · exact (createRequest_not_asks parent id name asks).elim
    · intro id t t' next
      refine matches_bind (matches_note w w' next _ _) ?_
      intro _ u u' later
      exact ih later id (level + 1)

theorem descend_matches (alike : ListAlike w w' together) {s : σ} {s' : τ} (start : together s s')
    (parent : Int) (level : Nat) (names : List Text) :
    (descend account parent level names w s).Matches together
      (descend account parent level names w' s') := by
  induction names generalizing s s' parent level with
  | nil => exact matches_ended w w' start _
  | cons name rest ih =>
    rw [descend_cons, descend_cons]
    refine matches_bind (matches_ask ?_ (alike.states start _)) ?_
    · rcases alike.replies start (listRequest account parent) with same | ⟨-, reordering⟩
      · rw [same]
      · exact lookedUp_reordered reordering parent name
    · intro found t t' next
      cases found with
      | some f => exact ih next f.id (level + 1)
      | none => exact createAll_matches alike next parent level (name :: rest)

/-- Each segment of a directory is looked up in one listing. The walk goes on in the folder that is
listed first of those with the name of the segment in some case. So if no two folders of a listing
have names that differ in case alone, another order of the listings changes neither what is sent nor
the folder. -/
theorem resolve_order_independent (account : FolderAccount) (directory : Text) (w : World σ) (s : σ) :
    let run := resolve account directory w s
    let xs := w.exchanges s run.sent
    let names := segments directory
    (∀ first ∈ names[0]?, ∃ reply, xs[0]? = some ⟨listRequest account rootId, reply⟩) ∧
      (∀ k parent reply name fs, xs[k]? = some ⟨listRequest account parent, reply⟩ →
        names[k]? = some name → IsListing reply fs →
        GoesOn account names xs run.result k parent name fs) ∧
      ∀ {τ : Type} (w' : World τ) (s' : τ) (together : σ → τ → Prop), ListAlike w w' together →
        together s s' →
        let run' := resolve account directory w' s'
        run'.sent = run.sent ∧ run'.result = run.result := by
  obtain ⟨lists, creates, result, t, ran, walk⟩ :=
    descend_ran account w s rootId 0 (segments directory)
  have exchanges : w.exchanges s (resolve account directory w s).sent = lists ++ creates :=
    ran.exchanges_eq
  have ends : (resolve account directory w s).result = result := ran.result_eq
  dsimp only
  rw [exchanges, ends]
  refine ⟨?_, ?_, ?_⟩
  · intro first isFirst
    revert walk
    cases names : segments directory with
    | nil =>
      rw [names] at isFirst
      cases isFirst
    | cons => exact Walk.first
  · intro k parent reply name fs asked wanted listing
    exact walk.goesOn asked wanted listing
  · intro τ w' s' together alike start
    have same : (resolve account directory w s).Matches together (resolve account directory w' s') :=
      descend_matches alike start rootId 0 (segments directory)
    exact ⟨same.sent_eq, same.result_eq.trans ends⟩

/-! ### Worlds of prepared listings -/

def listed (fs : List Folder) : Http.Reply :=
  Catalogue.answer [("folders".toList, .array (fs.map Catalogue.entry))]

theorem isListing_listed (fs : List Folder) : IsListing (listed fs) fs := by
  refine ⟨_, _, _, rfl, rfl, rfl, rfl, rfl, ?_⟩
  rw [List.forall₂_map_left_iff]
  exact List.forall₂_same.mpr fun f _ => rfl

/-- The folder whose content a request asks for. -/
def askedFolder? (r : Http.Request) : Option Int :=
  match r with
  | ⟨method, .text address, .parameters values⟩ =>
    match Entries.get? values "fld_id" with
    | some (.number (.int id)) =>
      if method = "GET" ∧ address = base ++ "folder/list" then some id else none
    | _ => none
  | _ => none

theorem asksFolders_of_askedFolder? {r : Http.Request} {id : Int} (asked : askedFolder? r = some id) :
    AsksFolders r id := by
  unfold askedFolder? at asked
  split at asked
  · next method address values =>
    split at asked
    · next given =>
      obtain ⟨⟨rfl, rfl⟩, same⟩ := Option.ite_none_right_eq_some.mp asked
      cases same
      exact ⟨rfl, rfl, values, rfl, given⟩
    · cases asked
  · cases asked

/-- A world that gives prepared listings, one after the other, and answers nothing else. -/
def listingWorld : World (List (List Folder)) where
  serve r listings :=
    match askedFolder? r, listings with
    | some _, fs :: rest => (listed fs, rest)
    | _, _ => (.refused "no reply", listings)
  clock _ := ⟨⟨2025, 1, 2⟩, 3, 4, 5, 0, .ok 0⟩

/-- The same listings, each in an order of its own and without names that differ in case alone. -/
def Reorders (listings listings' : List (List Folder)) : Prop :=
  List.Forall₂ (fun fs fs' => fs.Perm fs' ∧ (fs.map fun f => Text.lower f.name).Nodup) listings listings'

theorem listingWorld_alike : ListAlike listingWorld listingWorld Reorders where
  replies := by
    rintro _ _ (_ | ⟨⟨perm, distinct⟩, rest⟩) r
    · exact .inl rfl
    · cases asked : askedFolder? r with
      | none =>
        left
        simp only [listingWorld, asked]
      | some id =>
        right
        simp only [listingWorld, asked]
        exact ⟨⟨id, asksFolders_of_askedFolder? asked⟩, _, _, isListing_listed _, isListing_listed _,
          perm, distinct⟩
  states := by
    rintro _ _ (_ | ⟨first, rest⟩) r
    · cases asked : askedFolder? r <;> simp only [listingWorld, asked] <;> exact .nil
    · cases asked : askedFolder? r with
      | none =>
        simp only [listingWorld, asked]
        exact .cons first rest
      | some id =>
        simp only [listingWorld, asked]
        exact rest

def attic : List (List Folder) :=
  [[⟨4, "Boats"⟩, ⟨7, "Trees"⟩, ⟨9, "birds"⟩], [⟨2, "2025"⟩, ⟨3, "Oaks"⟩]]

def atticReordered : List (List Folder) :=
  [[⟨9, "birds"⟩, ⟨7, "Trees"⟩, ⟨4, "Boats"⟩], [⟨3, "Oaks"⟩, ⟨2, "2025"⟩]]

theorem attic_reorders : Reorders attic atticReordered := by
  unfold Reorders attic atticReordered
  refine .cons ⟨?_, ?_⟩ (.cons ⟨?_, ?_⟩ .nil)
  · decide
  · decide
  · decide
  · decide

theorem oaks_found_in_any_order :
    let account : FolderAccount := { apiKey := "key" }
    let run := resolve account "/trees/OAKS" listingWorld attic
    let run' := resolve account "/trees/OAKS" listingWorld atticReordered
    Reorders attic atticReordered ∧ run.result = .ok 3 ∧ run'.sent = run.sent ∧ run'.result = run.result := by
  intro account run run'
  have told := resolve_order_independent account "/trees/OAKS" listingWorld attic
  have found : run.result = .ok 3 := by
    show (descend account rootId 0 ["trees", "OAKS"] listingWorld attic).result = .ok 3
    rw [descend_cons, bind_of_ok (a := some ⟨7, "Trees"⟩) rfl]
    dsimp only
    rw [descend_cons, bind_of_ok (a := some ⟨3, "Oaks"⟩) rfl]
    rfl
  exact ⟨attic_reorders, found,
    told.2.2 listingWorld atticReordered Reorders listingWorld_alike attic_reorders⟩

end FolderService

end ImageFiling
