import ImageFiling.Proofs.Storage.UploadRun

/-!
# Phases of an upload

What a run of an upload looks like when its exchanges are counted and numbered: how many there are of
each kind, which folder each of them is about, and where that folder was told.
-/

namespace ImageFiling

def Http.Request.carriesFile (r : Http.Request) : Bool :=
  match r.payload with
  | .upload _ _ => true
  | _ => false

namespace FolderService

variable {account : FolderAccount}

def startingWith (first : Int) (others : Nat → Int) : Nat → Int
  | 0 => first
  | k + 1 => others k

/-- Creations in numbers: the `k`-th is for the `k`-th name and in the folder `made k`, which for all
but the first is told by the reply before. -/
structure CreationPhases (account : FolderAccount) (names : List Text) (start : Int)
    (creates : List Exchange) (result : Except Failure Int) (made : Nat → Int) : Prop where
  length_le : creates.length ≤ names.length
  complete : ∀ folder, result = .ok folder →
    creates.length = names.length ∧ folder = made creates.length
  start_eq : made 0 = start
  asks : ∀ k x, creates[k]? = some x →
    ∃ name, names[k]? = some name ∧ x.request = createRequest account (made k) name
  gives : ∀ k x, creates[k]? = some x → (k + 1 < creates.length ∨ ∃ folder, result = .ok folder) →
    createdOf x.reply = .ok (made (k + 1))
  stopped : ∀ e, result = .error e →
    ∃ x, creates.getLast? = some x ∧ createdOf x.reply = .error e

theorem CreationPhases.arrived (parent : Int) :
    CreationPhases account [] parent [] (.ok parent) fun _ => parent where
  length_le := Nat.le_refl _
  complete := by
    rintro folder ⟨⟩
    exact ⟨rfl, rfl⟩
  start_eq := rfl
  asks := by simp
  gives := by simp
  stopped := by simp

theorem CreationPhases.refused {parent : Int} {name : Text} {rest : List Text} {reply : Http.Reply}
    {e : Failure} (read : createdOf reply = .error e) :
    CreationPhases account (name :: rest) parent [⟨createRequest account parent name, reply⟩]
      (.error e) fun _ => parent where
  length_le := by simp
  complete := by simp
  start_eq := rfl
  asks := by
    rintro (_ | k) x found
    · cases found
      exact ⟨name, rfl, rfl⟩
    · cases found
  gives := by
    rintro k x found (more | ⟨folder, ⟨⟩⟩)
    simp at more
  stopped := by
    rintro e' ⟨⟩
    exact ⟨_, rfl, read⟩

theorem CreationPhases.created {parent id : Int} {name : Text} {rest : List Text}
    {reply : Http.Reply} {creates : List Exchange} {result : Except Failure Int} {made : Nat → Int}
    (read : createdOf reply = .ok id)
    (phases : CreationPhases account rest id creates result made) :
    CreationPhases account (name :: rest) parent
      (⟨createRequest account parent name, reply⟩ :: creates) result (startingWith parent made) where
  length_le := Nat.succ_le_succ phases.length_le
  complete := by
    intro folder ok
    obtain ⟨length, last⟩ := phases.complete folder ok
    exact ⟨congrArg Nat.succ length, last⟩
  start_eq := rfl
  asks := by
    rintro (_ | k) x found
    · cases found
      exact ⟨name, rfl, rfl⟩
    · exact phases.asks k x found
  gives := by
    rintro (_ | k) x found more
    · cases found
      exact read.trans (congrArg _ phases.start_eq.symm)
    · exact phases.gives k x found (more.imp_left Nat.lt_of_succ_lt_succ)
  stopped := by
    intro e failed
    obtain ⟨x, last, refused⟩ := phases.stopped e failed
    exact ⟨x, by rw [List.getLast?_cons, last]; rfl, refused⟩

theorem Creation.phases {parent : Int} {names : List Text} {xs : List Exchange}
    {result : Except Failure Int} (creation : Creation account parent names xs result) :
    ∃ made, CreationPhases account names parent xs result made := by
  induction creation with
  | done parent => exact ⟨_, .arrived parent⟩
  | stopped read => exact ⟨_, .refused read⟩
  | @created parent id name rest reply xs result read below ih =>
    obtain ⟨made, phases⟩ := ih
    exact ⟨startingWith parent made, phases.created read⟩

/-- A walk in numbers: the `k`-th look-up is for the `k`-th name and in the folder `parent k`, which
for all but the first is told by the reply before; creations begin in the folder of the last look-up,
with the name that it did not find. -/
structure WalkPhases (account : FolderAccount) (names : List Text) (start : Int)
    (lists creates : List Exchange) (result : Except Failure Int) (parent made : Nat → Int) :
    Prop where
  lists_le : lists.length ≤ names.length
  creates_le : creates ≠ [] → 1 ≤ lists.length ∧ lists.length + creates.length ≤ names.length + 1
  complete : ∀ folder, result = .ok folder →
    (creates = [] ∧ lists.length = names.length ∧ folder = parent lists.length) ∨
      (creates ≠ [] ∧ lists.length + creates.length = names.length + 1 ∧
        folder = made creates.length)
  start_eq : parent 0 = start
  list_asks : ∀ k x, lists[k]? = some x → x.request = listRequest account (parent k)
  list_finds : ∀ k x name, lists[k]? = some x → names[k]? = some name →
    (k + 1 < lists.length ∨ (creates = [] ∧ ∃ folder, result = .ok folder)) →
    ∃ fs f, listingOf (parent k) x.reply = .ok fs ∧
      fs.find? (·.key = Text.lower name) = some f ∧ parent (k + 1) = f.id
  list_lacks : creates ≠ [] → ∀ k x name, lists[k]? = some x → names[k]? = some name →
    k + 1 = lists.length → ∃ fs, listingOf (parent k) x.reply = .ok fs ∧
      fs.find? (·.key = Text.lower name) = none ∧ made 0 = parent k
  create_asks : ∀ k x, creates[k]? = some x →
    ∃ name, names[lists.length - 1 + k]? = some name ∧
      x.request = createRequest account (made k) name
  create_gives : ∀ k x, creates[k]? = some x →
    (k + 1 < creates.length ∨ ∃ folder, result = .ok folder) →
    createdOf x.reply = .ok (made (k + 1))
  stopped : ∀ e, result = .error e →
    (creates = [] ∧ ∃ x, lists.getLast? = some x ∧
      listingOf (parent (lists.length - 1)) x.reply = .error e) ∨
    ∃ x, creates.getLast? = some x ∧ createdOf x.reply = .error e

theorem Creation.ne_nil {parent : Int} {name : Text} {rest : List Text} {xs : List Exchange}
    {result : Except Failure Int} (creation : Creation account parent (name :: rest) xs result) :
    xs ≠ [] := by
  cases creation <;> simp

section

variable {start : Int} {name : Text} {rest : List Text} {reply : Http.Reply} {fs : List Folder}
  {lists creates : List Exchange} {result : Except Failure Int} {parent made : Nat → Int}

theorem WalkPhases.arrived (start : Int) :
    WalkPhases account [] start [] [] (.ok start) (fun _ => start) fun _ => start where
  lists_le := Nat.le_refl _
  creates_le := by simp
  complete := by
    rintro folder ⟨⟩
    exact .inl ⟨rfl, rfl, rfl⟩
  start_eq := rfl
  list_asks := by simp
  list_finds := by simp
  list_lacks := by simp
  create_asks := by simp
  create_gives := by simp
  stopped := by simp

theorem WalkPhases.unread {e : Failure} (read : listingOf start reply = .error e) :
    WalkPhases account (name :: rest) start [⟨listRequest account start, reply⟩] [] (.error e)
      (fun _ => start) fun _ => start where
  lists_le := by simp
  creates_le := by simp
  complete := by simp
  start_eq := rfl
  list_asks := by
    rintro (_ | k) x found
    · cases found
      rfl
    · cases found
  list_finds := by
    rintro k x n found named (more | ⟨-, folder, ⟨⟩⟩)
    simp at more
  list_lacks := by simp
  create_asks := by simp
  create_gives := by simp
  stopped := by
    rintro e' ⟨⟩
    exact .inl ⟨rfl, _, rfl, read⟩

/-- A folder that is found adds the first look-up to the walk below it. -/
theorem WalkPhases.found {f : Folder} (read : listingOf start reply = .ok fs)
    (look : fs.find? (·.key = Text.lower name) = some f)
    (phases : WalkPhases account rest f.id lists creates result parent made) :
    WalkPhases account (name :: rest) start (⟨listRequest account start, reply⟩ :: lists) creates
      result (startingWith start parent) made where
  lists_le := Nat.succ_le_succ phases.lists_le
  creates_le some := by
    have := phases.creates_le some
    simp only [List.length_cons]
    omega
  complete := by
    intro folder ok
    refine (phases.complete folder ok).imp ?_ ?_
    · rintro ⟨none, length, last⟩
      exact ⟨none, congrArg Nat.succ length, last⟩
    · rintro ⟨some, length, last⟩
      refine ⟨some, ?_, last⟩
      simp only [List.length_cons]
      omega
  start_eq := rfl
  list_asks := by
    rintro (_ | k) x found
    · cases found
      rfl
    · exact phases.list_asks k x found
  list_finds := by
    rintro (_ | k) x n found named more
    · cases found
      cases named
      exact ⟨fs, f, read, look, phases.start_eq⟩
    · exact phases.list_finds k x n found named (more.imp_left Nat.lt_of_succ_lt_succ)
  list_lacks := by
    rintro some (_ | k) x n found named last
    · have := (phases.creates_le some).1
      simp only [List.length_cons] at last
      omega
    · exact phases.list_lacks some k x n found named (Nat.succ.inj last)
  create_asks := by
    intro k x found
    obtain ⟨n, named, request⟩ := phases.create_asks k x found
    have some : creates ≠ [] := by
      rintro rfl
      cases found
    have := (phases.creates_le some).1
    refine ⟨n, ?_, request⟩
    have shift : lists.length + 1 - 1 + k = (lists.length - 1 + k) + 1 := by omega
    rw [List.length_cons, shift, List.getElem?_cons_succ]
    exact named
  create_gives := phases.create_gives
  stopped := by
    intro e failed
    refine (phases.stopped e failed).imp_left ?_
    rintro ⟨none, x, last, refused⟩
    have some : lists.length = lists.length - 1 + 1 := by
      cases lists with
      | nil => cases last
      | cons => simp
    refine ⟨none, x, by rw [List.getLast?_cons, last]; rfl, ?_⟩
    rw [List.length_cons, Nat.add_sub_cancel, some]
    exact refused

/-- Where a folder is missing, the look-ups end and the creations begin. -/
theorem WalkPhases.missing (read : listingOf start reply = .ok fs)
    (look : fs.find? (·.key = Text.lower name) = none) (filled : creates ≠ [])
    (phases : CreationPhases account (name :: rest) start creates result made) :
    WalkPhases account (name :: rest) start [⟨listRequest account start, reply⟩] creates result
      (fun _ => start) made where
  lists_le := by simp
  creates_le _ := by
    have := phases.length_le
    simp only [List.length_cons, List.length_nil] at this ⊢
    omega
  complete := by
    intro folder ok
    obtain ⟨length, last⟩ := phases.complete folder ok
    refine .inr ⟨filled, ?_, last⟩
    simp only [List.length_cons, List.length_nil] at length ⊢
    omega
  start_eq := rfl
  list_asks := by
    rintro (_ | k) x found
    · cases found
      rfl
    · cases found
  list_finds := by
    rintro k x n found named (more | ⟨none, -⟩)
    · simp at more
    · exact (filled none).elim
  list_lacks := by
    rintro - (_ | k) x n found named -
    · cases found
      cases named
      exact ⟨fs, read, look, phases.start_eq⟩
    · cases found
  create_asks := by
    intro k x found
    simpa using phases.asks k x found
  create_gives := phases.gives
  stopped e failed := .inr (phases.stopped e failed)

end

theorem Walk.phases {start : Int} {names : List Text} {lists creates : List Exchange}
    {result : Except Failure Int} (walk : Walk account start names lists creates result) :
    ∃ parent made, WalkPhases account names start lists creates result parent made := by
  induction walk with
  | done start => exact ⟨_, _, .arrived start⟩
  | stopped read => exact ⟨_, _, .unread read⟩
  | @found start name rest reply fs f lists creates result read look below ih =>
    obtain ⟨parent, made, phases⟩ := ih
    exact ⟨startingWith start parent, made, phases.found read look⟩
  | @missing start name rest reply fs creates result read look below =>
    obtain ⟨made, phases⟩ := below.phases
    exact ⟨fun _ => start, made, .missing read look below.ne_nil phases⟩

theorem Creation.carriesFile_eq_false {parent : Int} {names : List Text} {xs : List Exchange}
    {result : Except Failure Int} (creation : Creation account parent names xs result) :
    ∀ x ∈ xs, x.request.carriesFile = false := by
  induction creation with
  | done => simp
  | stopped => simp [createRequest, callRequest, Http.Request.carriesFile]
  | created _ _ ih => exact List.forall_mem_cons.mpr ⟨rfl, ih⟩

theorem Walk.carriesFile_eq_false {start : Int} {names : List Text} {lists creates : List Exchange}
    {result : Except Failure Int} (walk : Walk account start names lists creates result) :
    ∀ x ∈ lists ++ creates, x.request.carriesFile = false := by
  induction walk with
  | done => simp
  | stopped => simp [listRequest, callRequest, Http.Request.carriesFile]
  | found _ _ _ ih => exact List.forall_mem_cons.mpr ⟨rfl, ih⟩
  | missing _ _ below => exact List.forall_mem_cons.mpr ⟨rfl, below.carriesFile_eq_false⟩

theorem Filing.carriesFile_le {u : Upload} {folder : Int} {rest : List Exchange}
    {result : Except Failure Json} (filing : Filing account u folder rest result) :
    (rest.filter (·.request.carriesFile)).length ≤ 1 := by
  cases filing with
  | unassigned => exact Nat.zero_le _
  | unstored => exact Nat.le_refl _
  | inRoot => exact Nat.le_refl _
  | moved => exact Nat.le_refl _

/-- Whatever the replies are, an upload looks folders up, then creates folders, then files the
content. The walk is as `WalkPhases` tells; it is complete when a server is asked for, and what is
sent from there on is as `Filing` tells. The content is sent once at most. -/
theorem upload_exchanges {σ : Type} (account : FolderAccount) (u : Upload) (w : World σ) (s : σ) :
    let run := upload account u w s
    let xs := w.exchanges s run.sent
    let names := segments u.directory
    ∃ lists creates rest resolved parent made,
      run.sent = xs.map (·.request) ∧ xs = lists ++ creates ++ rest ∧
      WalkPhases account names rootId lists creates resolved parent made ∧
      (rest ≠ [] → (creates = [] ∧ lists.length = names.length) ∨
        (creates ≠ [] ∧ lists.length + creates.length = names.length + 1)) ∧
      ((∃ e, resolved = .error e ∧ rest = [] ∧ run.result = .error e) ∨
        ∃ folder, resolved = .ok folder ∧ Filing account u folder rest run.result) ∧
      (xs.filter (·.request.carriesFile)).length ≤ 1 := by
  obtain ⟨lists, creates, rest, result, t, ran, uploading⟩ := upload_ran account w s u
  dsimp only
  rw [ran.exchanges_eq, ran.result_eq]
  have none : ∀ walked : List Exchange, (∀ x ∈ walked, x.request.carriesFile = false) →
      walked.filter (·.request.carriesFile) = [] := by
    intro walked plain
    simpa using plain
  cases uploading with
  | unresolved walk =>
    obtain ⟨parent, made, phases⟩ := walk.phases
    refine ⟨lists, creates, [], _, parent, made, ran.sent_eq, rfl, phases, ?_, ?_, ?_⟩
    · intro some
      exact (some rfl).elim
    · exact .inl ⟨_, rfl, rfl, rfl⟩
    · rw [List.append_nil, none _ walk.carriesFile_eq_false]
      exact Nat.zero_le _
  | resolved walk filing =>
    obtain ⟨parent, made, phases⟩ := walk.phases
    refine ⟨lists, creates, rest, _, parent, made, ran.sent_eq, rfl, phases, ?_, ?_, ?_⟩
    · rintro -
      refine (phases.complete _ rfl).imp ?_ ?_
      · rintro ⟨empty, length, -⟩
        exact ⟨empty, length⟩
      · rintro ⟨some, length, -⟩
        exact ⟨some, length⟩
    · exact .inr ⟨_, rfl, filing⟩
    · rw [List.filter_append, none _ walk.carriesFile_eq_false, List.nil_append]
      exact filing.carriesFile_le

end FolderService

end ImageFiling
