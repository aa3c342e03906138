import ImageFiling.Proofs.Storage.FolderTree

/-!
# A folder service in memory

Folders in the order in which they came. It shows that there are worlds that keep a tree, and is the
place where statements about such worlds are tried.
-/

namespace ImageFiling.FolderService

/-- Folders numbered from 1, each with the number of the one that it is inside, or 0. -/
structure Catalogue where
  folders : List (Nat × Text)
  earlier : ∀ (k : Nat) (f : Nat × Text), folders[k]? = some f → f.1 ≤ k

namespace Catalogue

def places (c : Catalogue) : Places
  | .ofNat (k + 1) => c.folders[k]?.map fun f => ⟨f.1, f.2⟩
  | _ => none

def children (c : Catalogue) (parent : Int) : List Folder :=
  (List.range c.folders.length).filterMap fun (k : Nat) =>
    (c.folders[k]?.filter fun f => f.1 = parent).map fun f => ⟨k + 1, f.2⟩

def add (c : Catalogue) (parent : Nat) (name : Text) (known : parent ≤ c.folders.length) :
    Catalogue where
  folders := c.folders ++ [(parent, name)]
  earlier k f found := by
    by_cases old : k < c.folders.length
    · rw [List.getElem?_append_left old] at found
      exact c.earlier k f found
    · rw [List.getElem?_append_right (by omega)] at found
      have member := List.mem_singleton.mp (List.mem_of_getElem? found)
      rw [member]
      omega

theorem exists_path (c : Catalogue) (k : Nat) (f : Nat × Text) (found : c.folders[k]? = some f) :
    ∃ names, c.places.Path rootId names (k + 1 : Nat) := by
  induction k using Nat.strongRecOn generalizing f with
  | _ k ih =>
    obtain ⟨parent, name⟩ := f
    have placed : c.places (k + 1 : Nat) = some ⟨parent, name⟩ := by
      show c.folders[k]?.map _ = _
      rw [found]
      rfl
    cases parent with
    | zero => exact ⟨[name], .cons placed (.nil _)⟩
    | succ j =>
      have below : j < k := c.earlier k _ found
      have inside : j < c.folders.length := by
        have := (List.getElem?_eq_some_iff.mp found).1
        omega
      obtain ⟨names, path⟩ := ih j below _ (List.getElem?_eq_getElem inside)
      exact ⟨names ++ [name], path.append (.cons placed (.nil _))⟩

def tree (c : Catalogue) : FolderTree where
  places := c.places
  root_unplaced := rfl
  rooted id p placed := by
    match id, placed with
    | .ofNat (k + 1), placed =>
      obtain ⟨f, found, -⟩ := Option.map_eq_some_iff.mp placed
      exact c.exists_path k f found

theorem mem_children (c : Catalogue) (parent : Int) (f : Folder) :
    f ∈ c.children parent ↔ c.places f.id = some ⟨parent, f.name⟩ := by
  obtain ⟨id, name⟩ := f
  simp only [children, List.mem_filterMap, List.mem_range, Option.map_eq_some_iff,
    Option.filter_eq_some_iff, decide_eq_true_eq, Folder.mk.injEq]
  constructor
  · rintro ⟨k, -, f, ⟨found, rfl⟩, rfl, rfl⟩
    show c.folders[k]?.map _ = _
    rw [found]
    rfl
  · intro placed
    match id, placed with
    | .ofNat (k + 1), placed =>
      obtain ⟨f, found, same⟩ := Option.map_eq_some_iff.mp placed
      cases same
      exact ⟨k, (List.getElem?_eq_some_iff.mp found).1, f, ⟨found, rfl⟩, rfl, rfl⟩

theorem known_of_holds {c : Catalogue} {parent : Int} (held : c.places.Holds parent) :
    ∃ p : Nat, parent = p ∧ p ≤ c.folders.length := by
  rcases held with rfl | there
  · exact ⟨0, rfl, Nat.zero_le _⟩
  · match parent, there with
    | .ofNat (k + 1), there =>
      refine ⟨k + 1, rfl, ?_⟩
      by_contra small
      exact there (by show c.folders[k]?.map _ = none; rw [List.getElem?_eq_none (by omega)]; rfl)
    | .ofNat 0, there => exact (there rfl).elim
    | .negSucc k, there => exact (there rfl).elim

theorem places_add (c : Catalogue) (parent : Nat) (name : Text)
    (known : parent ≤ c.folders.length) :
    (c.add parent name known).places =
      c.places.add (c.folders.length + 1 : Nat) ⟨parent, name⟩ := by
  funext id
  unfold Places.add
  match id with
  | .ofNat (k + 1) =>
    show (c.folders ++ [(parent, name)])[k]?.map _ = _
    rcases Nat.lt_trichotomy k c.folders.length with before | rfl | after
    · rw [List.getElem?_append_left before, if_neg (by simp; omega)]
      rfl
    · rw [List.getElem?_append_right (Nat.le_refl _), Nat.sub_self]
      exact (if_pos rfl).symm
    · rw [List.getElem?_eq_none (by simp; omega), if_neg (by simp; omega)]
      show none = c.folders[k]?.map _
      rw [List.getElem?_eq_none (by omega)]
      rfl
  | .ofNat 0 => rfl
  | .negSucc k => rfl

/-! ### The world -/

def answer (result : Json.Members) : Http.Reply :=
  .response ⟨200, [], [], .ok (.object [("status".toList, .ofInt 200), ("result".toList, .object result)]), [], []⟩

def entry (f : Folder) : Json :=
  .object [("fld_id".toList, .ofInt f.id), ("name".toList, .text f.name)]

def serveCall (endpoint : Text) (values : Json.Members) (c : Catalogue) : Http.Reply × Catalogue :=
  if endpoint = base ++ "folder/list" then
    match Entries.get? values "fld_id" with
    | some (.number (.int id)) =>
      (answer [("folders".toList, .array ((c.children id).map entry))], c)
    | _ => (.refused "no folder", c)
  else if endpoint = base ++ "folder/create" then
    match Entries.get? values "parent_id", Entries.get? values "name" with
    | some (.number (.int (.ofNat parent))), some (.text name) =>
      if known : parent ≤ c.folders.length then
        (answer [("fld_id".toList, .ofInt (c.folders.length + 1 : Nat))], c.add parent name known)
      else (.refused "no such folder", c)
    | _, _ => (.refused "no name", c)
  else (.refused "no such call", c)

def world : World Catalogue where
  serve r c :=
    match r.address, r.payload with
    | .text endpoint, .parameters values => serveCall endpoint values c
    | _, _ => (.refused "no call", c)
  clock _ := ⟨⟨2025, 1, 2⟩, 3, 4, 5, 0, .ok 0⟩

theorem serve_call (method endpoint : Text) (values : Json.Members) (c : Catalogue) :
    world.serve ⟨method, .text endpoint, .parameters values⟩ c = serveCall endpoint values c := rfl

theorem answer_reports (result : Json.Members) :
    Reports (answer result)
      (.object [("status".toList, .ofInt 200), ("result".toList, .object result)]) :=
  ⟨_, rfl, rfl, rfl, rfl⟩

def server : FolderServer world where
  tree := tree
  lists := by
    rintro ⟨method, address, payload⟩ parent ⟨rfl, rfl, values, rfl, asked⟩ c held
    have served : world.serve ⟨"GET", .text (base ++ "folder/list"), .parameters values⟩ c =
        (answer [("folders".toList, .array ((c.children parent).map entry))], c) := by
      rw [serve_call, serveCall, if_pos rfl, asked]
      rfl
    rw [served]
    refine ⟨_, _, c.children parent, answer_reports _, rfl, ?_, c.mem_children parent, rfl⟩
    rw [List.forall₂_map_left_iff]
    exact List.forall₂_same.mpr fun f _ => ⟨rfl, rfl⟩
  creates := by
    rintro ⟨method, address, payload⟩ parent name ⟨rfl, rfl, values, rfl, asked, named⟩ c held
    obtain ⟨p, rfl, known⟩ := known_of_holds held
    have served : world.serve ⟨"GET", .text (base ++ "folder/create"), .parameters values⟩ c =
        (answer [("fld_id".toList, .ofInt (c.folders.length + 1 : Nat))], c.add p name known) := by
      rw [serve_call, serveCall, if_neg (by decide), if_pos rfl, asked, named]
      exact dif_pos known
    rw [served]
    refine ⟨_, _, answer_reports _, rfl, ?_, ?_, c.places_add p name known⟩
    · show ((c.folders.length + 1 : Nat) : Int) ≠ 0
      omega
    · show c.folders[c.folders.length]?.map _ = none
      simp

end Catalogue

end ImageFiling.FolderService
