import Mathlib.Data.List.Forall2
import ImageFiling.Proofs.Storage.FolderCalls

/-!
# Folder trees

The folders that a service keeps, each below another one or at the root, and the worlds that serve
them: a list names the folders inside a folder, and a new folder gets an id that is not in use.
-/

namespace ImageFiling.FolderService

open Session

structure Placed where
  parent : Int
  name : Text
  deriving DecidableEq, Repr

abbrev Places := Int → Option Placed

namespace Places

/-- The way down from a folder to another one, by the names of the folders on it. -/
inductive Path (places : Places) : Int → List Text → Int → Prop where
  | nil (id : Int) : Path places id [] id
  | cons {parent id last : Int} {name : Text} {names : List Text}
      (placed : places id = some ⟨parent, name⟩) (rest : Path places id names last) :
      Path places parent (name :: names) last

/-- The way down from a folder to another one by wanted names, whatever their case. -/
def Reaches (places : Places) (parent : Int) (wanted : List Text) (id : Int) : Prop :=
  ∃ names, Path places parent names id ∧ names.map Text.lower = wanted.map Text.lower

/-- No two folders inside one folder differ in case alone. -/
def SiblingsDistinct (places : Places) : Prop :=
  ∀ a b p q, places a = some p → places b = some q → p.parent = q.parent →
    Text.lower p.name = Text.lower q.name → a = b

/-- A folder that others may be inside of. -/
def Holds (places : Places) (id : Int) : Prop := id = rootId ∨ places id ≠ none

/-- No folder inside a folder has a name, whatever its case. -/
def Lacks (places : Places) (parent : Int) (name : Text) : Prop :=
  ∀ id other, places id = some ⟨parent, other⟩ → Text.lower other ≠ Text.lower name

def add (places : Places) (id : Int) (placed : Placed) : Places :=
  fun i => if i = id then some placed else places i

/-- Folders are added below a folder, one for each name and each inside the one before; the last of
them is told. -/
inductive Grown : Places → Int → List Text → Places → Int → Prop where
  | nil (places : Places) (parent : Int) : Grown places parent [] places parent
  | cons {places after : Places} {parent id last : Int} {name : Text} {names : List Text}
      (unused : places id = none) (notRoot : id ≠ rootId)
      (rest : Grown (places.add id ⟨parent, name⟩) id names after last) :
      Grown places parent (name :: names) after last

/-! ### Ways -/

theorem Path.append {places : Places} {a b c : Int} {names more : List Text}
    (first : Path places a names b) (second : Path places b more c) :
    Path places a (names ++ more) c := by
  induction first with
  | nil => exact second
  | cons placed _ ih => exact .cons placed (ih second)

theorem Path.mono {places after : Places} {a b : Int} {names : List Text}
    (keeps : ∀ id p, places id = some p → after id = some p) (path : Path places a names b) :
    Path after a names b := by
  induction path with
  | nil id => exact .nil id
  | cons placed _ ih => exact .cons (keeps _ _ placed) ih

theorem Reaches.nil (places : Places) (id : Int) : Reaches places id [] id := ⟨[], .nil id, rfl⟩

theorem Reaches.cons {places : Places} {parent id last : Int} {name wanted : Text}
    {rest : List Text} (placed : places id = some ⟨parent, name⟩)
    (same : Text.lower name = Text.lower wanted) (below : Reaches places id rest last) :
    Reaches places parent (wanted :: rest) last := by
  obtain ⟨names, path, names_eq⟩ := below
  exact ⟨name :: names, .cons placed path, by simp [same, names_eq]⟩

theorem Reaches.append {places : Places} {a b c : Int} {wanted more : List Text}
    (first : Reaches places a wanted b) (second : Reaches places b more c) :
    Reaches places a (wanted ++ more) c := by
  obtain ⟨names, path, names_eq⟩ := first
  obtain ⟨names', path', names_eq'⟩ := second
  exact ⟨names ++ names', path.append path', by simp [names_eq, names_eq']⟩

theorem Reaches.mono {places after : Places} {a b : Int} {wanted : List Text}
    (keeps : ∀ id p, places id = some p → after id = some p) (way : Reaches places a wanted b) :
    Reaches after a wanted b := by
  obtain ⟨names, path, names_eq⟩ := way
  exact ⟨names, path.mono keeps, names_eq⟩

theorem Reaches.congr {places : Places} {a b : Int} {wanted other : List Text}
    (same : other.map Text.lower = wanted.map Text.lower) (way : Reaches places a wanted b) :
    Reaches places a other b := by
  obtain ⟨names, path, names_eq⟩ := way
  exact ⟨names, path, names_eq.trans same.symm⟩

theorem Reaches.nil_eq {places : Places} {a b : Int} (way : Reaches places a [] b) : a = b := by
  obtain ⟨names, path, names_eq⟩ := way
  obtain rfl := List.map_eq_nil_iff.mp names_eq
  cases path
  rfl

theorem Reaches.first {places : Places} {parent last : Int} {wanted : Text} {rest : List Text}
    (way : Reaches places parent (wanted :: rest) last) :
    ∃ id name, places id = some ⟨parent, name⟩ ∧ Text.lower name = Text.lower wanted ∧
      Reaches places id rest last := by
  obtain ⟨names, path, names_eq⟩ := way
  cases path with
  | nil => cases names_eq
  | cons placed below =>
    simp only [List.map_cons, List.cons.injEq] at names_eq
    exact ⟨_, _, placed, names_eq.1, _, below, names_eq.2⟩

theorem Reaches.split {places : Places} {a c : Int} {wanted more : List Text}
    (way : Reaches places a (wanted ++ more) c) :
    ∃ b, Reaches places a wanted b ∧ Reaches places b more c := by
  induction wanted generalizing a with
  | nil => exact ⟨a, .nil _ _, way⟩
  | cons name rest ih =>
    obtain ⟨id, other, placed, same, below⟩ := way.first
    obtain ⟨b, first, second⟩ := ih below
    exact ⟨b, .cons placed same first, second⟩

/-- Where no siblings differ in case alone, wanted names lead to one folder only. -/
theorem SiblingsDistinct.reaches_unique {places : Places} (distinct : SiblingsDistinct places)
    {a b c : Int} {wanted : List Text} (first : Reaches places a wanted b)
    (second : Reaches places a wanted c) : b = c := by
  induction wanted generalizing a with
  | nil => rw [← first.nil_eq, ← second.nil_eq]
  | cons name rest ih =>
    obtain ⟨i, n, placed, same, below⟩ := first.first
    obtain ⟨j, m, placed', same', below'⟩ := second.first
    obtain rfl := distinct i j _ _ placed placed' rfl (same.trans same'.symm)
    exact ih below below'

theorem SiblingsDistinct.not_reaches {places : Places} (distinct : SiblingsDistinct places)
    {a b c : Int} {found rest : List Text} {name : Text} (way : Reaches places a found b)
    (lacks : Lacks places b name) : ¬ Reaches places a (found ++ name :: rest) c := by
  intro all
  obtain ⟨d, first, second⟩ := all.split
  obtain rfl := distinct.reaches_unique way first
  obtain ⟨id, other, placed, same, -⟩ := second.first
  exact lacks id other placed same

/-! ### Growth -/

theorem add_self (places : Places) (id : Int) (placed : Placed) :
    places.add id placed id = some placed := if_pos rfl

theorem add_of_ne (places : Places) {id i : Int} (placed : Placed) (different : i ≠ id) :
    places.add id placed i = places i := if_neg different

theorem add_keeps {places : Places} {id : Int} (placed : Placed) (unused : places id = none)
    (i : Int) (p : Placed) (old : places i = some p) : places.add id placed i = some p := by
  rw [add_of_ne places placed, old]
  rintro rfl
  rw [unused] at old
  cases old

theorem add_cases {places : Places} {id i : Int} {placed p : Placed}
    (found : places.add id placed i = some p) : (i = id ∧ p = placed) ∨ places i = some p := by
  by_cases same : i = id
  · subst same
    rw [add_self] at found
    exact .inl ⟨rfl, (Option.some.inj found).symm⟩
  · rw [add_of_ne places placed same] at found
    exact .inr found

theorem Grown.keeps {places after : Places} {parent last : Int} {names : List Text}
    (grown : Grown places parent names after last) (id : Int) (p : Placed)
    (old : places id = some p) : after id = some p := by
  induction grown with
  | nil => exact old
  | cons unused _ _ ih => exact ih (add_keeps _ unused id p old)

theorem Grown.path {places after : Places} {parent last : Int} {names : List Text}
    (grown : Grown places parent names after last) : Path after parent names last := by
  induction grown with
  | nil _ parent => exact .nil parent
  | cons _ _ rest ih => exact .cons (rest.keeps _ _ (add_self _ _ _)) ih

theorem Grown.reaches {places after : Places} {parent last : Int} {names : List Text}
    (grown : Grown places parent names after last) : Reaches after parent names last :=
  ⟨names, grown.path, rfl⟩

/-- Every folder is inside one that is there. -/
def Closed (places : Places) : Prop := ∀ id p, places id = some p → places.Holds p.parent

theorem Closed.lacks {places : Places} (closed : Closed places) {id : Int}
    (unheld : ¬ places.Holds id) (name : Text) : Lacks places id name :=
  fun _ _ placed _ => unheld (closed _ _ placed)

theorem Holds.add {places : Places} {i id : Int} (held : places.Holds i) (placed : Placed) :
    (places.add id placed).Holds i := by
  rcases held with root | there
  · exact .inl root
  · right
    unfold Places.add
    split
    · simp
    · exact there

theorem Closed.add {places : Places} (closed : Closed places) {id parent : Int}
    (held : places.Holds parent) (name : Text) : Closed (places.add id ⟨parent, name⟩) := by
  intro i p found
  rcases add_cases found with ⟨-, rfl⟩ | old
  · exact held.add _
  · exact (closed i p old).add _

theorem SiblingsDistinct.add {places : Places} (distinct : SiblingsDistinct places)
    {id parent : Int} {name : Text} (lacks : Lacks places parent name) :
    SiblingsDistinct (places.add id ⟨parent, name⟩) := by
  intro a b p q foundA foundB together same
  rcases add_cases foundA with ⟨rfl, rfl⟩ | oldA <;> rcases add_cases foundB with ⟨rfl, rfl⟩ | oldB
  · rfl
  · obtain ⟨parent', other⟩ := q
    obtain rfl : parent = parent' := together
    exact (lacks b other oldB same.symm).elim
  · obtain ⟨parent', other⟩ := p
    obtain rfl : parent' = parent := together
    exact (lacks a other oldA same).elim
  · exact distinct a b p q oldA oldB together same

/-- Only the first of the folders that are added can have a sibling, so it alone decides whether
siblings stay distinct. -/
theorem Grown.siblingsDistinct {places after : Places} {parent last : Int} {names : List Text}
    (grown : Grown places parent names after last) (distinct : SiblingsDistinct places)
    (closed : Closed places) (held : places.Holds parent)
    (lacks : ∀ name ∈ names.head?, Lacks places parent name) : SiblingsDistinct after := by
  induction grown with
  | nil => exact distinct
  | @cons places after parent id last name names unused notRoot _ ih =>
    have unheld : ¬ places.Holds id := by
      rintro (root | there)
      · exact notRoot root
      · exact there unused
    have different : parent ≠ id := fun same => unheld (same ▸ held)
    refine ih (distinct.add (lacks name rfl)) (closed.add held name) ?_ ?_
    · exact .inr (by rw [add_self]; simp)
    · intro next _ i other found
      rcases add_cases found with ⟨rfl, placed⟩ | old
      · exact (different (congrArg Placed.parent placed).symm).elim
      · exact closed.lacks unheld next i other old

end Places

/-! ### Trees -/

/-- A tree of folders: there is a way from the root to every folder. -/
structure FolderTree where
  places : Places
  root_unplaced : places rootId = none
  rooted : ∀ id p, places id = some p → ∃ names, Places.Path places rootId names id

theorem Places.Path.holds {places : Places} {a b : Int} {names : List Text}
    (path : Path places a names b) (held : places.Holds a) : places.Holds b := by
  induction path with
  | nil => exact held
  | cons placed _ ih => exact ih (.inr (by rw [placed]; simp))

theorem Places.Path.parent_holds {places : Places} {a b : Int} {names : List Text} {p : Placed}
    (path : Path places a names b) (held : places.Holds a) (different : a ≠ b)
    (placed : places b = some p) : places.Holds p.parent := by
  induction path with
  | nil => exact (different rfl).elim
  | @cons parent id last name names first below ih =>
    by_cases same : id = last
    · subst same
      rw [first] at placed
      cases placed
      exact held
    · exact ih (.inr (by rw [first]; simp)) same placed

theorem FolderTree.closed (t : FolderTree) : t.places.Closed := by
  intro id p placed
  obtain ⟨names, path⟩ := t.rooted id p placed
  refine path.parent_holds (.inl rfl) ?_ placed
  rintro rfl
  rw [t.root_unplaced] at placed
  cases placed

/-! ### Worlds that keep a tree -/

structure AsksFolders (r : Http.Request) (parent : Int) : Prop where
  method : r.method = "GET"
  address : r.address = .text (base ++ "folder/list")
  parameters : ∃ values, r.payload = .parameters values ∧
    Entries.get? values "fld_id" = some (.ofInt parent)

structure AsksCreation (r : Http.Request) (parent : Int) (name : Text) : Prop where
  method : r.method = "GET"
  address : r.address = .text (base ++ "folder/create")
  parameters : ∃ values, r.payload = .parameters values ∧
    Entries.get? values "parent_id" = some (.ofInt parent) ∧
    Entries.get? values "name" = some (.text name)

/-- A reply with an answer that reports success, both with status 200. -/
def Reports (reply : Http.Reply) (answer : Json) : Prop :=
  ∃ response, reply = .response response ∧ response.status = 200 ∧ response.json = .ok answer ∧
    answer.member? "status" = some (.ofInt 200)

structure IsEntry (entry : Json) (f : Folder) : Prop where
  id : entry.member? "fld_id" = some (.ofInt f.id)
  name : entry.member? "name" = some (.text f.name)

/-- A world that keeps a tree of folders. Lists are in any order, and new ids are chosen freely. -/
structure FolderServer {σ : Type} (w : World σ) where
  tree : σ → FolderTree
  lists : ∀ {r parent}, AsksFolders r parent → ∀ s, (tree s).places.Holds parent →
    ∃ answer entries children, Reports (w.serve r s).1 answer ∧
      (answer.member? "result").bind (·.member? "folders") = some (.array entries) ∧
      List.Forall₂ IsEntry entries children ∧
      (∀ f, f ∈ children ↔ (tree s).places f.id = some ⟨parent, f.name⟩) ∧
      tree (w.serve r s).2 = tree s
  creates : ∀ {r parent name}, AsksCreation r parent name → ∀ s, (tree s).places.Holds parent →
    ∃ answer id, Reports (w.serve r s).1 answer ∧
      (answer.member? "result").bind (·.member? "fld_id") = some (.ofInt id) ∧
      id ≠ rootId ∧ (tree s).places id = none ∧
      (tree (w.serve r s).2).places = (tree s).places.add id ⟨parent, name⟩

theorem listRequest_asks (account : FolderAccount) (parent : Int) :
    AsksFolders (listRequest account parent) parent := ⟨rfl, rfl, _, rfl, by simp [Entries.get?]⟩

theorem createRequest_asks (account : FolderAccount) (parent : Int) (name : Text) :
    AsksCreation (createRequest account parent name) parent name :=
  ⟨rfl, rfl, _, rfl, by simp [Entries.get?], by simp [Entries.get?, List.lookup_cons]⟩

theorem answerOf_of_success {response : Http.Response} {answer : Json}
    (accepted : response.isOk = true) (json : response.json = .ok answer)
    (success : isSuccess answer = true) (action : Text) :
    answerOf action (.response response) = .ok answer := by
  have value : valueOf action (.response response) = .ok answer := by
    rw [valueOf, accepted, json]
    rfl
  simp [answerOf, value, success, bind, Except.bind]

theorem answerOf_of_reports {reply : Http.Reply} {answer : Json} (reports : Reports reply answer)
    (action : Text) : answerOf action reply = .ok answer := by
  obtain ⟨response, rfl, status, json, member⟩ := reports
  have success : isSuccess answer = true := by
    rw [isSuccess, member]
    rfl
  have accepted : response.isOk = true := by
    simp [Http.Response.isOk, status]
  exact answerOf_of_success accepted json success action

theorem folder?_of_isEntry {entry : Json} {f : Folder} (is : IsEntry entry f) :
    folder? entry = some f := by
  unfold folder?
  rw [is.id, is.name]
  rfl

theorem mapM_folder?_of_entries {entries : List Json} {children : List Folder}
    (are : List.Forall₂ (fun entry f => folder? entry = some f) entries children) :
    entries.mapM folder? = some children := by
  induction are with
  | nil => rfl
  | cons is _ ih => simp [is, ih]

theorem foldersOf_of_entries {answer : Json} {entries : List Json} {children : List Folder}
    (listed : (answer.member? "result").bind (·.member? "folders") = some (.array entries))
    (are : List.Forall₂ (fun entry f => folder? entry = some f) entries children) (parent : Int) :
    foldersOf parent answer = .ok children := by
  unfold foldersOf
  rw [listed]
  dsimp only
  rw [mapM_folder?_of_entries are]

theorem createdId_of_member {answer : Json} {id : Int}
    (given : (answer.member? "result").bind (·.member? "fld_id") = some (.ofInt id)) :
    createdId answer = .ok id := by
  unfold createdId
  rw [given]
  rfl

variable {σ : Type} {w : World σ} {s : σ}

theorem mem_sorted {f : Folder} {folders : List Folder} : f ∈ sorted folders ↔ f ∈ folders :=
  (List.mergeSort_perm _ _).mem_iff

theorem folders_served (server : FolderServer w) (account : FolderAccount) {parent : Int}
    (held : (server.tree s).places.Holds parent) :
    ∃ reply fs t, Ran (folders account parent) w s [⟨listRequest account parent, reply⟩] (.ok fs) t ∧
      server.tree t = server.tree s ∧
      ∀ f, f ∈ fs ↔ (server.tree s).places f.id = some ⟨parent, f.name⟩ := by
  obtain ⟨answer, entries, children, reports, listed, are, exact, same⟩ :=
    server.lists (listRequest_asks account parent) s held
  have ran := folders_ran account w s parent
  have listing : listingOf parent (w.serve (listRequest account parent) s).1 = .ok children := by
    rw [listingOf, answerOf_of_reports reports]
    exact foldersOf_of_entries listed (are.imp fun _ _ => folder?_of_isEntry) parent
  rw [listing] at ran
  exact ⟨_, sorted children, _, ran, same, fun f => mem_sorted.trans (exact f)⟩

theorem create_served (server : FolderServer w) (account : FolderAccount) {parent : Int}
    (held : (server.tree s).places.Holds parent) (name : Text) :
    ∃ reply id t, Ran (create account parent name) w s [⟨createRequest account parent name, reply⟩]
        (.ok id) t ∧ id ≠ rootId ∧ (server.tree s).places id = none ∧
      (server.tree t).places = (server.tree s).places.add id ⟨parent, name⟩ := by
  obtain ⟨answer, id, reports, given, notRoot, unused, added⟩ :=
    server.creates (createRequest_asks account parent name) s held
  have ran := create_ran account w s parent name
  have created : createdOf (w.serve (createRequest account parent name) s).1 = .ok id := by
    rw [createdOf, answerOf_of_reports reports]
    exact congrArg (Except.mapError _) (createdId_of_member given)
  rw [created] at ran
  exact ⟨_, id, _, ran, notRoot, unused, added⟩

end ImageFiling.FolderService
