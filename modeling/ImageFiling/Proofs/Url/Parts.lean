import ImageFiling.Proofs.Text.Pieces
import ImageFiling.Url.Split

/-!
# The parts of a URL

Cutting a URL never adds a character, and tabs and line ends are dropped before the first cut.
-/

namespace ImageFiling.Url

def kept (t : Text) : Text := (t.dropWhile isLeading).filter (!isSkipped ·)

/-- The parts of a text, before anything is refused. -/
def parts (t : Text) : Url :=
  let (scheme, rest) := splitScheme (kept t)
  let (authority, rest) := splitAuthority rest
  let (rest, fragment) := rest.cut '#'
  let (path, query) := rest.cut '?'
  ⟨scheme, authority, path, query.getD [], fragment.getD []⟩

theorem split_eq (t : Text) : split t = (do
    checkBrackets (parts t).authority
    checkDelimiters (parts t).authority
    return parts t) := rfl

theorem eq_parts_of_split {t : Text} {url : Url} (accepted : split t = .ok url) :
    url = parts t := by
  rw [split_eq] at accepted
  cases brackets : checkBrackets (parts t).authority with
  | error f =>
    rw [brackets] at accepted
    cases accepted
  | ok _ =>
    cases delimiters : checkDelimiters (parts t).authority with
    | error f =>
      rw [brackets] at accepted
      simp only [delimiters] at accepted
      cases accepted
    | ok _ =>
      rw [brackets, delimiters] at accepted
      exact (Except.ok.inj accepted).symm

theorem splitScheme_suffix (t : Text) : (splitScheme t).2 <:+ t := by
  unfold splitScheme
  split
  · next scheme rest found =>
    split
    · exact Text.suffix_of_cut found
    · exact List.suffix_refl t
  · exact List.suffix_refl t

theorem mem_of_mem_authority {t : Text} {c : Char} (member : c ∈ (splitAuthority t).1) : c ∈ t := by
  unfold splitAuthority at member
  split at member
  · next r =>
    have inner := (List.takeWhile_sublist _).subset member
    exact List.mem_cons_of_mem _ (List.mem_cons_of_mem _ inner)
  · cases member

theorem splitAuthority_suffix (t : Text) : (splitAuthority t).2 <:+ t := by
  unfold splitAuthority
  split
  · next r =>
    exact (List.dropWhile_suffix _).trans ((List.suffix_cons _ r).trans (List.suffix_cons _ _))
  · exact List.suffix_refl _

theorem mem_kept_of_mem_parts {t : Text} {c : Char}
    (member : c ∈ (parts t).authority ∨ c ∈ (parts t).path ∨ c ∈ (parts t).query) : c ∈ kept t := by
  have scheme := (splitScheme_suffix (kept t)).subset
  have authority := (splitAuthority_suffix (splitScheme (kept t)).2).subset
  rcases member with inAuthority | inPath | inQuery
  · exact scheme (mem_of_mem_authority inAuthority)
  · exact scheme (authority (Text.mem_of_mem_cut (Text.mem_of_mem_cut inPath)))
  · exact scheme (authority (Text.mem_of_mem_cut (Text.mem_of_mem_cut_rest inQuery)))

theorem not_mem_of_split {t : Text} {url : Url} (accepted : split t = .ok url) {c : Char}
    (skipped : isSkipped c = true) : c ∉ url.authority ∧ c ∉ url.path ∧ c ∉ url.query := by
  have outside : c ∉ kept t := by
    intro member
    have visible := (List.mem_filter.mp member).2
    rw [skipped] at visible
    cases visible
  rw [eq_parts_of_split accepted]
  exact ⟨fun member => outside (mem_kept_of_mem_parts (.inl member)),
    fun member => outside (mem_kept_of_mem_parts (.inr (.inl member))),
    fun member => outside (mem_kept_of_mem_parts (.inr (.inr member)))⟩

theorem not_mem_authority {t : Text} {url : Url} (accepted : split t = .ok url) {c : Char}
    (ends : endsAuthority c = true) : c ∉ url.authority := by
  rw [eq_parts_of_split accepted]
  change c ∉ (splitAuthority (splitScheme (kept t)).2).1
  unfold splitAuthority
  split
  · intro member
    have passed := List.all_eq_true.mp List.all_takeWhile c member
    rw [ends] at passed
    cases passed
  · exact List.not_mem_nil

end ImageFiling.Url
