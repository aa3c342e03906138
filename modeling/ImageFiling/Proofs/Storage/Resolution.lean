import ImageFiling.Proofs.Storage.Catalogue

/-!
# Resolving directories

The folder of a directory in a world that keeps a tree. `resolve_in_tree` says where the folder is,
which folders are new, and that a second look finds the same folder and creates nothing.
-/

namespace ImageFiling.FolderService

open Session

variable {σ : Type} {w : World σ} {s : σ}

/-- The wanted names below a folder lead as far as `start`, from where the missing ones are added. -/
structure Resolved (before after : Places) (parent : Int) (wanted found missing : List Text)
    (start id : Int) : Prop where
  wanted_eq : wanted = found ++ missing
  way : before.Reaches parent found start
  lacks : ∀ name ∈ missing.head?, before.Lacks start name
  grown : before.Grown start missing after id

theorem createAll_served (server : FolderServer w) (account : FolderAccount) {parent : Int}
    (held : (server.tree s).places.Holds parent) (level : Nat) (names : List Text) :
    ∃ xs id t, Ran (createAll account parent level names) w s xs (.ok id) t ∧
      (server.tree s).places.Grown parent names (server.tree t).places id := by
  induction names generalizing s parent level with
  | nil => exact ⟨[], parent, s, pure_ran _ _ _, .nil _ _⟩
  | cons name rest ih =>
    obtain ⟨reply, id, t, created, notRoot, unused, added⟩ := create_served server account held name
    have heldNew : (server.tree t).places.Holds id := by
      right
      rw [added, Places.add_self]
      simp
    obtain ⟨xs, last, u, ran, grown⟩ := ih heldNew (level + 1)
    rw [added] at grown
    exact ⟨_, last, u, createAll_created created ran, .cons unused notRoot grown⟩

/-- One induction for all that resolving does: each name is found and the walk goes on below it, or
it is missing and with it all that come after. -/
theorem descend_served (server : FolderServer w) (account : FolderAccount) {parent : Int}
    (held : (server.tree s).places.Holds parent) (level : Nat) (wanted : List Text) :
    ∃ xs id t, Ran (descend account parent level wanted) w s xs (.ok id) t ∧
      ∃ found missing start, Resolved (server.tree s).places (server.tree t).places parent wanted
          found missing start id ∧
        (missing = [] → ∀ x ∈ xs, ∃ folder, x.request = listRequest account folder) := by
  induction wanted generalizing s parent level with
  | nil =>
    refine ⟨[], parent, s, pure_ran _ _ _, [], [], parent, ⟨rfl, .nil _ _, ?_, .nil _ _⟩, ?_⟩
    · simp
    · simp
  | cons name rest ih =>
    obtain ⟨reply, fs, t, listed, same, exact⟩ := folders_served server account held
    cases look : fs.find? (·.key = Text.lower name) with
    | some f =>
      have key : f.key = Text.lower name := by simpa using List.find?_some look
      have placed := (exact f).mp (List.mem_of_find?_eq_some look)
      have heldBelow : (server.tree t).places.Holds f.id := by
        right
        rw [same, placed]
        simp
      obtain ⟨xs, id, u, ran, found, missing, start, resolved, lists⟩ := ih heldBelow (level + 1)
      rw [same] at resolved
      refine ⟨_, id, u, descend_found listed look ran, name :: found, missing, start, ⟨?_, ?_, ?_, ?_⟩, ?_⟩
      · rw [resolved.wanted_eq, List.cons_append]
      · exact .cons placed key resolved.way
      · exact resolved.lacks
      · exact resolved.grown
      · intro none x member
        rcases List.mem_cons.mp member with rfl | later
        · exact ⟨parent, rfl⟩
        · exact lists none x later
    | none =>
      have lacks : (server.tree s).places.Lacks parent name := by
        intro id other placed
        have member := (exact ⟨id, other⟩).mpr placed
        exact of_decide_eq_false (Bool.eq_false_iff.mpr (List.find?_eq_none.mp look _ member))
      rw [← same] at held
      obtain ⟨xs, id, u, ran, grown⟩ := createAll_served server account held level (name :: rest)
      rw [same] at grown
      refine ⟨_, id, u, descend_missing listed look ran, [], name :: rest, parent, ⟨rfl, .nil _ _, ?_, grown⟩, ?_⟩
      · intro other first
        obtain rfl : name = other := Option.some.inj first
        exact lacks
      · rintro ⟨⟩

/-- What a second walk finds. -/
theorem Resolved.again {before after : Places} {parent start id last : Int}
    {wanted found missing : List Text}
    (resolved : Resolved before after parent wanted found missing start id)
    (distinct : before.SiblingsDistinct) (way : before.Reaches parent wanted last) :
    missing = [] ∧ id = last ∧ after = before := by
  obtain ⟨rfl, reaches, lacks, grown⟩ := resolved
  cases grown with
  | nil =>
    rw [List.append_nil] at way
    exact ⟨rfl, distinct.reaches_unique reaches way, rfl⟩
  | cons => exact (distinct.not_reaches reaches (lacks _ rfl) way).elim

/-- In a world that keeps a tree, the folder of a directory is one whose names from the root are the
segments of the directory, whatever their case. Nothing that was there changes; below the folder that
the first segments lead to, the others are added, each inside the one before. Afterwards a directory
of the same segments, whatever their case, has the same folder, and nothing is created for it. -/
theorem resolve_in_tree (server : FolderServer w) (account : FolderAccount) (s : σ)
    (distinct : (server.tree s).places.SiblingsDistinct) (directory : Text) :
    let first := resolve account directory w s
    let before := (server.tree s).places
    let after := (server.tree first.state).places
    ∃ id, first.result = .ok id ∧
      (∃ names, after.Path rootId names id ∧
        names.map Text.lower = (segments directory).map Text.lower) ∧
      (∀ i p, before i = some p → after i = some p) ∧
      (∃ found missing start, segments directory = found ++ missing ∧
        before.Reaches rootId found start ∧
        (∀ name rest, missing = name :: rest → ∀ i, ¬ before.Reaches rootId (found ++ [name]) i) ∧
        before.Grown start missing after id) ∧
      after.SiblingsDistinct ∧
      ∀ again, (segments again).map Text.lower = (segments directory).map Text.lower →
        let second := resolve account again w first.state
        second.result = .ok id ∧ (server.tree second.state).places = after ∧
        ∀ r ∈ second.sent, r.address ≠ .text (base ++ "folder/create") := by
  obtain ⟨xs, id, t, ran, found, missing, start, resolved, -⟩ :=
    descend_served server account (s := s) (.inl rfl) 0 (segments directory)
  have state : (resolve account directory w s).state = t := ran.state_eq
  dsimp only
  rw [state]
  have keeps := resolved.grown.keeps
  have reaches : (server.tree t).places.Reaches rootId (segments directory) id := by
    rw [resolved.wanted_eq]
    exact (resolved.way.mono keeps).append resolved.grown.reaches
  have heldStart : (server.tree s).places.Holds start := by
    obtain ⟨names, path, -⟩ := resolved.way
    exact path.holds (.inl rfl)
  have distinctAfter := resolved.grown.siblingsDistinct distinct (server.tree s).closed heldStart
    resolved.lacks
  refine ⟨id, ran.result_eq, reaches, keeps, ⟨found, missing, start, resolved.wanted_eq,
    resolved.way, ?_, resolved.grown⟩, distinctAfter, ?_⟩
  · rintro name rest rfl i
    exact distinct.not_reaches resolved.way (resolved.lacks name rfl)
  · intro again same
    obtain ⟨ys, last, u, ran', found', missing', start', resolved', lists⟩ :=
      descend_served server account (s := t) (.inl rfl) 0 (segments again)
    obtain ⟨rfl, rfl, unchanged⟩ := resolved'.again distinctAfter (reaches.congr same)
    have sent : (resolve account again w t).sent = ys.map (·.request) := ran'.sent_eq
    have state' : (resolve account again w t).state = u := ran'.state_eq
    refine ⟨ran'.result_eq, ?_, ?_⟩
    · rw [state', unchanged]
    · intro r member
      rw [sent] at member
      obtain ⟨x, inside, rfl⟩ := List.mem_map.mp member
      obtain ⟨folder, request⟩ := lists rfl x inside
      rw [request]
      simp [listRequest, callRequest]

def pictures : Catalogue where
  folders := [(0, "Pictures")]
  earlier := by
    rintro (_ | k) f found
    · cases found
      exact Nat.le_refl _
    · cases found

theorem pictures_siblingsDistinct : pictures.places.SiblingsDistinct := by
  have only : ∀ id p, pictures.places id = some p → id = 1 := by
    rintro ((_ | _ | k) | k) p found
    · cases found
    · rfl
    · cases found
    · cases found
  intro a b p q foundA foundB _ _
  rw [only a p foundA, only b q foundB]

theorem resolve_in_pictures :
    let account : FolderAccount := { apiKey := "key" }
    pictures.places.SiblingsDistinct ∧
      ∃ id, (resolve account "/pictures/2025" Catalogue.world pictures).result = .ok id ∧
        (resolve account "PICTURES//2025/" Catalogue.world
          (resolve account "/pictures/2025" Catalogue.world pictures).state).result = .ok id := by
  obtain ⟨id, first, -, -, -, -, again⟩ := resolve_in_tree Catalogue.server { apiKey := "key" } pictures
    pictures_siblingsDistinct "/pictures/2025"
  exact ⟨pictures_siblingsDistinct, id, first, (again "PICTURES//2025/" (by decide)).1⟩

end ImageFiling.FolderService
