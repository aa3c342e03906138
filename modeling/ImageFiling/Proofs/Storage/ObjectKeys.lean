import ImageFiling.Proofs.Text.Pieces
import ImageFiling.Storage.FolderService
import ImageFiling.Storage.ObjectStore
import Mathlib.Data.List.Induction

/-!
# Keys of objects

The key of an object is made of the segments of its directory, which are the folders that the folder
service walks, and of those of its file name (`objectKey_eq_joined`).
-/

namespace ImageFiling

/-! ### Segments -/

namespace FolderService

variable {t : Text}

theorem of_mem_segments {segment : Text} (member : segment ∈ segments t) :
    segment ≠ [] ∧ '/' ∉ segment := by
  obtain ⟨piece, filled⟩ := List.mem_filter.mp member
  refine ⟨by simpa using filled, fun slash => ?_⟩
  exact absurd (Text.of_mem_piecesBy piece slash).1 (by decide)

theorem segments_append_cons (t u : Text) : segments (t ++ '/' :: u) = segments t ++ segments u := by
  rw [segments, Text.pieces_append_cons, List.filter_append, segments, segments]

theorem segments_cons_slash (t : Text) : segments ('/' :: t) = segments t :=
  segments_append_cons [] t

theorem segments_concat_slash (t : Text) : segments (t ++ ['/']) = segments t :=
  (segments_append_cons t []).trans (List.append_nil _)

theorem segments_of_not_mem (clean : '/' ∉ t) (filled : t ≠ []) : segments t = [t] := by
  rw [segments, Text.pieces_singleton clean]
  exact List.filter_cons_of_pos (by simpa using filled)

theorem segments_joined {names : List Text} (clean : ∀ n ∈ names, n ≠ [] ∧ '/' ∉ n) :
    segments (Text.joined ['/'] names) = names := by
  by_cases empty : names = []
  · subst empty
    rfl
  · rw [segments, Text.pieces_joined empty fun n member => (clean n member).2, List.filter_eq_self]
    intro n member
    simpa using (clean n member).1

end FolderService

namespace ObjectStore

open FolderService (segments of_mem_segments segments_append_cons segments_joined)

def isSlash (c : Char) : Bool := c == '/'

theorem segments_dropWhile (t : Text) : segments (t.dropWhile isSlash) = segments t := by
  induction t with
  | nil => rfl
  | cons c t ih =>
    by_cases slash : c = '/'
    · subst slash
      rw [List.dropWhile_cons_of_pos rfl, ih, FolderService.segments_cons_slash]
    · rw [List.dropWhile_cons_of_neg (by simpa [isSlash] using slash)]

/-- A text loses its end behind `t` as far as it is to be trimmed, and with all of it the end of `t`. -/
theorem trimEnd_append (t u : Text) : Text.trimEnd isSlash (t ++ u) =
    if Text.trimEnd isSlash u = [] then Text.trimEnd isSlash t else t ++ Text.trimEnd isSlash u := by
  simp only [Text.trimEnd, List.reverse_append, List.dropWhile_append, List.reverse_eq_nil_iff,
    List.isEmpty_iff]
  split
  · rfl
  · rw [List.reverse_append, List.reverse_reverse]

theorem trimEnd_of_not_mem {t : Text} (clean : '/' ∉ t) : Text.trimEnd isSlash t = t := by
  rw [Text.trimEnd, List.reverse_eq_iff]
  cases reversed : t.reverse with
  | nil => rfl
  | cons c r =>
    have member : c ∈ t := by
      rw [← List.mem_reverse, reversed]
      exact List.mem_cons_self
    refine List.dropWhile_cons_of_neg ?_
    rw [isSlash, beq_iff_eq]
    rintro rfl
    exact clean member

/-- A slash at the joint is lost together with all that follows it. -/
theorem trimEnd_append_slash {name : Text} (clean : '/' ∉ name) (u : Text) :
    Text.trimEnd isSlash (name ++ '/' :: u) =
      if Text.trimEnd isSlash u = [] then name else name ++ '/' :: Text.trimEnd isSlash u := by
  have dropped : Text.trimEnd isSlash ['/'] = [] := rfl
  rw [show name ++ '/' :: u = name ++ (['/'] ++ u) from rfl, trimEnd_append, trimEnd_append ['/'],
    dropped, trimEnd_of_not_mem clean]
  split
  · exact if_pos rfl
  · exact if_neg (List.cons_ne_nil _ _)

theorem segments_trimEnd (t : Text) : segments (Text.trimEnd isSlash t) = segments t := by
  induction t using List.reverseRecOn with
  | nil => rfl
  | append_singleton t c ih =>
    by_cases slash : c = '/'
    · subst slash
      have dropped : Text.trimEnd isSlash ['/'] = [] := rfl
      rw [trimEnd_append, if_pos dropped, ih, FolderService.segments_concat_slash]
    · have kept := trimEnd_of_not_mem (t := [c]) (by simpa using Ne.symm slash)
      rw [trimEnd_append, kept, if_neg (List.cons_ne_nil c [])]

theorem segments_trim (t : Text) : segments (Text.trim isSlash t) = segments t := by
  rw [Text.trim, segments_trimEnd, segments_dropWhile]

/-! ### Slashes -/

theorem collapse_cons {c : Char} (other : c ≠ '/') (t : Text) :
    collapseSlashes (c :: t) = c :: collapseSlashes t := by
  rw [collapseSlashes]
  intro r slash
  exact absurd slash other

theorem collapse_slash (t : Text) :
    collapseSlashes ('/' :: t) = '/' :: collapseSlashes (t.dropWhile isSlash) := by
  induction t with
  | nil => rfl
  | cons c t ih =>
    by_cases slash : c = '/'
    · subst slash
      rw [collapseSlashes, ih, List.dropWhile_cons_of_pos rfl]
    · rw [List.dropWhile_cons_of_neg (by simpa [isSlash] using slash), collapseSlashes]
      rintro r - same
      exact slash (List.cons.inj same).1

theorem collapse_append {t : Text} (clean : '/' ∉ t) (u : Text) :
    collapseSlashes (t ++ u) = t ++ collapseSlashes u := by
  induction t with
  | nil => rfl
  | cons c t ih =>
    have other : c ≠ '/' := by
      rintro rfl
      exact clean List.mem_cons_self
    have rest : '/' ∉ t := fun member => clean (List.mem_cons_of_mem c member)
    rw [List.cons_append, collapse_cons other, ih rest, List.cons_append]

theorem collapse_of_not_mem {t : Text} (clean : '/' ∉ t) : collapseSlashes t = t := by
  have whole := collapse_append clean []
  rwa [collapseSlashes, List.append_nil] at whole

theorem head?_dropWhile_slash (t : Text) : (t.dropWhile isSlash).head? ≠ some '/' := by
  have first := List.head?_dropWhile_not isSlash t
  intro slash
  rw [slash] at first
  exact absurd first (by decide)

theorem dropWhile_eq_self {t : Text} (starts : t.head? ≠ some '/') : t.dropWhile isSlash = t := by
  cases t with
  | nil => rfl
  | cons c t => exact List.dropWhile_cons_of_neg (by simpa [isSlash] using starts)

theorem head?_collapse {t : Text} (starts : t.head? ≠ some '/') :
    (collapseSlashes t).head? ≠ some '/' := by
  cases t with
  | nil => exact starts
  | cons c t =>
    rw [collapse_cons (by simpa using starts)]
    exact starts

theorem dropWhile_collapse (t : Text) :
    (collapseSlashes t).dropWhile isSlash = collapseSlashes (t.dropWhile isSlash) := by
  by_cases starts : t.head? = some '/'
  · obtain ⟨r, rfl⟩ := List.head?_eq_some_iff.mp starts
    have stays := dropWhile_eq_self (head?_collapse (head?_dropWhile_slash r))
    rw [collapse_slash, List.dropWhile_cons_of_pos rfl, List.dropWhile_cons_of_pos rfl, stays]
  · rw [dropWhile_eq_self (head?_collapse starts), dropWhile_eq_self starts]

theorem joined_ne_nil {name : Text} (filled : name ≠ []) (rest : List Text) :
    Text.joined ['/'] (name :: rest) ≠ [] := by
  obtain ⟨c, t, rfl⟩ := List.exists_cons_of_ne_nil filled
  rw [Text.joined_cons_head]
  exact List.cons_ne_nil _ _

/-- A text that begins with no slash loses all slashes that stand between no segments. -/
theorem trimEnd_collapse {t : Text} (starts : t.head? ≠ some '/') :
    Text.trimEnd isSlash (collapseSlashes t) = Text.joined ['/'] (segments t) := by
  induction size : t.length using Nat.strong_induction_on generalizing t with
  | h n ih =>
    by_cases slash : '/' ∈ t
    · obtain ⟨name, r, rfl, clean⟩ := List.eq_append_cons_of_mem slash
      have filled : name ≠ [] := by
        rintro rfl
        exact starts rfl
      have shorter : (r.dropWhile isSlash).length < n := by
        have part := (List.dropWhile_sublist isSlash (l := r)).length_le
        rw [← size, List.length_append, List.length_cons]
        omega
      have later := ih _ shorter (head?_dropWhile_slash r) rfl
      rw [collapse_append clean, collapse_slash, trimEnd_append_slash clean, later,
        segments_dropWhile, segments_append_cons, FolderService.segments_of_not_mem clean filled]
      cases names : segments r with
      | nil => rfl
      | cons next rest =>
        have member : next ∈ segments r := by
          rw [names]
          exact List.mem_cons_self
        rw [if_neg (joined_ne_nil (of_mem_segments member).1 rest)]
        exact (List.append_assoc name ['/'] _).symm
    · rw [collapse_of_not_mem slash, trimEnd_of_not_mem slash]
      by_cases empty : t = []
      · rw [empty]
        rfl
      · rw [FolderService.segments_of_not_mem slash empty]
        rfl

theorem objectKey_eq_joined (directory fileName : Text) :
    objectKey directory fileName = Text.joined ['/'] (segments directory ++ segments fileName) := by
  change Text.trimEnd isSlash ((collapseSlashes
    (Text.trim isSlash directory ++ '/' :: fileName)).dropWhile isSlash) = _
  rw [dropWhile_collapse, trimEnd_collapse (head?_dropWhile_slash _), segments_dropWhile,
    segments_append_cons, segments_trim]

/-! ### Tidy keys -/

/-- Slashes stand only between other characters, and one at a time. -/
structure IsTidy (key : Text) : Prop where
  head : key.head? ≠ some '/'
  last : key.getLast? ≠ some '/'
  inner : ¬ ['/', '/'] <:+: key

theorem filled_around (before : Text) {after : Text}
    (filled : [] ∉ Text.pieces '/' (before ++ '/' :: after)) :
    before ≠ [] ∧ after ≠ [] ∧ [] ∉ Text.pieces '/' after := by
  rw [Text.pieces_append_cons, List.mem_append, not_or] at filled
  refine ⟨?_, ?_, filled.2⟩
  · rintro rfl
    exact filled.1 (List.mem_singleton_self [])
  · rintro rfl
    exact filled.2 (List.mem_singleton_self [])

theorem isTidy_of_filled {key : Text} (filled : [] ∉ Text.pieces '/' key) : IsTidy key where
  head := by
    intro first
    obtain ⟨r, rfl⟩ := List.head?_eq_some_iff.mp first
    exact (filled_around [] filled).1 rfl
  last := by
    intro last
    obtain ⟨r, rfl⟩ := List.getLast?_eq_some_iff.mp last
    exact (filled_around r filled).2.1 rfl
  inner := by
    rintro ⟨before, after, rfl⟩
    rw [List.append_assoc] at filled
    exact (filled_around [] (filled_around before filled).2.2).1 rfl

theorem isTidy_joined {names : List Text} (clean : ∀ n ∈ names, n ≠ [] ∧ '/' ∉ n) :
    IsTidy (Text.joined ['/'] names) := by
  by_cases empty : names = []
  · subst empty
    exact ⟨nofun, nofun, by decide⟩
  · apply isTidy_of_filled
    rw [Text.pieces_joined empty fun n member => (clean n member).2]
    exact fun member => (clean [] member).1 rfl

theorem clean_segments (directory fileName : Text) :
    ∀ n ∈ segments directory ++ segments fileName, n ≠ [] ∧ '/' ∉ n :=
  List.forall_mem_append.mpr ⟨fun _ => of_mem_segments, fun _ => of_mem_segments⟩

theorem segments_objectKey (directory fileName : Text) :
    segments (objectKey directory fileName) = segments directory ++ segments fileName := by
  rw [objectKey_eq_joined, segments_joined (clean_segments directory fileName)]

/-- The key of a file joins the segments of its directory and of its name, with no other slashes. The
first ones are the folders that the folder service goes down for the same directory. A key stays as it
is when it is taken for a file name, and it does not matter where a path is divided. -/
theorem objectKey_of_segments (directory fileName : Text) :
    objectKey directory fileName = Text.joined ['/'] (segments directory ++ segments fileName) ∧
    IsTidy (objectKey directory fileName) ∧
    segments (objectKey directory fileName) = segments directory ++ segments fileName ∧
    (∀ (σ : Type) (account : FolderAccount),
      (FolderService.resolve account directory : Session σ Int) =
        FolderService.descend account FolderService.rootId 0
          ((segments (objectKey directory fileName)).take (segments directory).length)) ∧
    objectKey [] (objectKey directory fileName) = objectKey directory fileName ∧
    ∀ other, objectKey (objectKey directory fileName) other =
      objectKey directory (objectKey fileName other) := by
  have whole := segments_objectKey directory fileName
  refine ⟨objectKey_eq_joined _ _, ?_, whole, ?_, ?_, ?_⟩
  · rw [objectKey_eq_joined]
    exact isTidy_joined (clean_segments directory fileName)
  · intro σ account
    rw [whole, List.take_left, FolderService.resolve]
  · rw [objectKey_eq_joined [], whole, objectKey_eq_joined]
    rfl
  · intro other
    rw [objectKey_eq_joined, whole, objectKey_eq_joined directory, segments_objectKey,
      List.append_assoc]

end ObjectStore

end ImageFiling
