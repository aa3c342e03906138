import ImageFiling.Proofs.Text.Digits
import ImageFiling.Proofs.Url.Parts

/-!
# URLs put together

A URL that is put together from a site and what follows is cut at its seams (`Site.split_text`). What
stands before the query of a URL does not change it (`query_parts`).
-/

namespace ImageFiling.Url

def endsPath (c : Char) : Bool := c == '?' || c == '#'

theorem isSkipped_eq_false {c : Char} (visible : 0x20 ≤ c.toNat) : isSkipped c = false := by
  rw [← Bool.not_eq_true]
  intro skipped
  simp only [isSkipped, Bool.or_eq_true, beq_iff_eq] at skipped
  rcases skipped with (rfl | rfl) | rfl
  · exact absurd visible (by decide)
  · exact absurd visible (by decide)
  · exact absurd visible (by decide)

theorem filter_visible {t : Text} (visible : ∀ c ∈ t, isSkipped c = false) :
    t.filter (!isSkipped ·) = t := by
  rw [List.filter_eq_self]
  intro c member
  rw [visible c member]
  rfl

theorem toNat_of_endsAuthority (c : Char) (ends : endsAuthority c = true) : 0x20 < c.toNat := by
  simp only [endsAuthority, Bool.or_eq_true, beq_iff_eq] at ends
  rcases ends with (rfl | rfl) | rfl <;> decide

theorem endsAuthority_of_endsPath {c : Char} (ends : endsPath c = true) : endsAuthority c = true := by
  simp only [endsPath, Bool.or_eq_true, beq_iff_eq] at ends
  rcases ends with rfl | rfl <;> rfl

theorem toNat_of_endsPath (c : Char) (ends : endsPath c = true) : 0x20 < c.toNat :=
  toNat_of_endsAuthority c (endsAuthority_of_endsPath ends)

section

variable {p : Char → Bool} {rest : Text} (stops : ∀ c, p c = true → 0x20 < c.toNat)
  (begins : rest.head?.all p = true)

include stops begins

/-- Dropping what counts nowhere keeps the character that a text begins with. -/
theorem begins_filter : (rest.filter (!isSkipped ·)).head?.all p = true := by
  cases rest with
  | nil => rfl
  | cons c rest =>
    have first : p c = true := begins
    rw [List.filter_cons, isSkipped_eq_false (Nat.le_of_lt (stops c first))]
    exact first

theorem kept_append (before : Text) :
    kept (before ++ rest) = kept before ++ rest.filter (!isSkipped ·) := by
  have stays : rest.dropWhile isLeading = rest := by
    cases rest with
    | nil => rfl
    | cons c rest =>
      have shown := stops c begins
      exact List.dropWhile_cons_of_neg (by simpa [isLeading] using shown)
  unfold kept
  rw [List.dropWhile_append, ← List.filter_append]
  split
  · next leading => rw [List.isEmpty_iff.mp leading, stays, List.nil_append]
  · rfl

end

/-! ### Sites -/

def IsScheme (t : Text) : Prop := t.head?.any Char.isAlpha = true ∧ t.all isSchemeChar = true

theorem IsScheme.ne_nil {t : Text} (isScheme : IsScheme t) : t ≠ [] := by
  rintro rfl
  exact Bool.false_ne_true isScheme.1

/-- An authority that stands in a URL and is not refused. -/
structure IsAuthority (t : Text) : Prop where
  inside : ∀ c ∈ t, endsAuthority c = false ∧ isSkipped c = false
  brackets : checkBrackets t = .ok ()
  delimiters : checkDelimiters t = .ok ()

/-- What stands before the path of a page. -/
structure Site where
  scheme : Text
  authority : Text
  isScheme : IsScheme scheme
  isAuthority : IsAuthority authority

def Site.text (s : Site) : Text := s.scheme ++ ':' :: '/' :: '/' :: s.authority

/-- The parts of a URL that goes on after the site with `rest`. -/
def Site.url (s : Site) (rest : Text) : Url :=
  let (before, fragment) := Text.cut '#' (rest.filter (!isSkipped ·))
  let (path, query) := Text.cut '?' before
  ⟨s.scheme.map Char.toLower, s.authority, path, query.getD [], fragment.getD []⟩

theorem checkBrackets_of_not_mem {t : Text} (opening : '[' ∉ t) (closing : ']' ∉ t) :
    checkBrackets t = .ok () := by
  have none {c : Char} (outside : c ∉ t) : t.contains c = false := by
    rw [List.contains_eq_mem, decide_eq_false outside]
  rw [checkBrackets, none opening, none closing]

theorem checkDelimiters_ascii {t : Text} (ascii : ∀ c ∈ t, c.toNat < 0x80) :
    checkDelimiters t = .ok () := by
  have forms : ∀ n ∈ delimiterForms, 0x80 ≤ n := by decide
  unfold checkDelimiters
  rw [if_neg]
  intro hidden
  obtain ⟨c, member, form⟩ := List.any_eq_true.mp hidden
  have above := forms _ (List.contains_iff_mem.mp form)
  have below := ascii c member
  omega

theorem toNat_of_isSchemeChar {c : Char} (inScheme : isSchemeChar c = true) : 0x20 < c.toNat := by
  simp only [isSchemeChar, Bool.or_eq_true, beq_iff_eq] at inScheme
  rcases inScheme with ((alphanum | rfl) | rfl) | rfl
  · have bounds := Text.toNat_of_isAlphanum alphanum
    omega
  · decide
  · decide
  · decide

theorem Site.kept_text (s : Site) : kept s.text = s.text := by
  obtain ⟨scheme, authority, ⟨first, chars⟩, isAuthority⟩ := s
  have visible : ∀ c ∈ scheme, 0x20 < c.toNat := fun c member =>
    toNat_of_isSchemeChar (List.all_eq_true.mp chars c member)
  have stays : (scheme ++ ':' :: '/' :: '/' :: authority).dropWhile isLeading =
      scheme ++ ':' :: '/' :: '/' :: authority := by
    cases scheme with
    | nil => cases first
    | cons a scheme =>
      have shown := visible a List.mem_cons_self
      exact List.dropWhile_cons_of_neg (by simpa [isLeading] using shown)
  rw [kept, Site.text, stays]
  apply filter_visible
  refine List.forall_mem_append.mpr
    ⟨fun c member => isSkipped_eq_false (Nat.le_of_lt (visible c member)), ?_⟩
  simp only [List.forall_mem_cons]
  exact ⟨rfl, rfl, rfl, fun c member => (isAuthority.inside c member).2⟩

theorem splitScheme_of_isScheme {scheme : Text} (isScheme : IsScheme scheme) (rest : Text) :
    splitScheme (scheme ++ ':' :: rest) = (scheme.map Char.toLower, rest) := by
  have colon : ':' ∉ scheme := fun member =>
    absurd (List.all_eq_true.mp isScheme.2 ':' member) (by decide)
  simp [splitScheme, colon, isScheme.1, isScheme.2]

theorem splitAuthority_of_inside {authority rest : Text}
    (inside : ∀ c ∈ authority, endsAuthority c = false)
    (begins : rest.head?.all endsAuthority = true) :
    splitAuthority ('/' :: '/' :: (authority ++ rest)) = (authority, rest) := by
  have passes : ∀ c ∈ authority, (!endsAuthority c) = true := fun c member => by
    rw [inside c member]
    rfl
  have stops : rest.takeWhile (!endsAuthority ·) = [] ∧ rest.dropWhile (!endsAuthority ·) = rest := by
    cases rest with
    | nil => exact ⟨rfl, rfl⟩
    | cons c rest =>
      have ends : endsAuthority c = true := begins
      simp [ends]
  change ((authority ++ rest).takeWhile (!endsAuthority ·),
    (authority ++ rest).dropWhile (!endsAuthority ·)) = (authority, rest)
  rw [List.takeWhile_append_of_pos passes, List.dropWhile_append_of_pos passes, stops.1, stops.2,
    List.append_nil]

/-- A URL of a site is accepted and cut where it was put together. -/
theorem Site.split_text (s : Site) {rest : Text} (begins : rest.head?.all endsAuthority = true) :
    split (s.text ++ rest) = .ok (s.url rest) := by
  have follows := begins_filter toNat_of_endsAuthority begins
  have scheme := splitScheme_of_isScheme s.isScheme
    ('/' :: '/' :: (s.authority ++ rest.filter (!isSkipped ·)))
  have authority := splitAuthority_of_inside (fun c member => (s.isAuthority.inside c member).1) follows
  have shape : kept (s.text ++ rest) =
      s.scheme ++ ':' :: '/' :: '/' :: (s.authority ++ rest.filter (!isSkipped ·)) := by
    rw [kept_append toNat_of_endsAuthority begins, s.kept_text]
    simp [Site.text]
  have whole : parts (s.text ++ rest) = s.url rest := by
    unfold parts
    rw [shape, scheme]
    simp only [authority]
    rfl
  rw [split_eq, whole]
  change (do checkBrackets s.authority; checkDelimiters s.authority; return s.url rest) = _
  rw [s.isAuthority.brackets, s.isAuthority.delimiters]
  rfl

/-! ### Paths and queries -/

/-- What ends no path stands before the query of a URL. -/
theorem cut_query {before : Text} (inside : ∀ c ∈ before, endsPath c = false) (rest : Text) :
    Text.cut '?' (Text.cut '#' (before ++ rest)).1 =
      (before ++ (Text.cut '?' (Text.cut '#' rest).1).1, (Text.cut '?' (Text.cut '#' rest).1).2) := by
  rw [Text.cut_append (mt (inside '#') (by decide)), Text.cut_append (mt (inside '?') (by decide))]

theorem cut_query_begins {rest : Text} (begins : rest.head?.all endsPath = true) :
    (Text.cut '?' (Text.cut '#' rest).1).1 = [] := by
  cases rest with
  | nil => rfl
  | cons c rest =>
    have ends : endsPath c = true := begins
    simp only [endsPath, Bool.or_eq_true, beq_iff_eq] at ends
    rcases ends with rfl | rfl <;> rfl

theorem Site.path_url (s : Site) {path rest : Text}
    (inside : ∀ c ∈ path, endsPath c = false ∧ isSkipped c = false)
    (begins : rest.head?.all endsPath = true) : (s.url (path ++ rest)).path = path := by
  change (Text.cut '?' (Text.cut '#' ((path ++ rest).filter (!isSkipped ·))).1).1 = path
  have visible := filter_visible fun c member => (inside c member).2
  have follows := begins_filter toNat_of_endsPath begins
  rw [List.filter_append, visible, cut_query fun c member => (inside c member).1,
    cut_query_begins follows, List.append_nil]

/-- A path that follows a site is read as it stands. -/
theorem Site.exists_split (s : Site) {path rest : Text} (rooted : path.head?.all (· == '/') = true)
    (inside : ∀ c ∈ path, endsPath c = false ∧ isSkipped c = false)
    (begins : rest.head?.all endsPath = true) :
    ∃ url, split (s.text ++ (path ++ rest)) = .ok url ∧ url.path = path := by
  refine ⟨s.url (path ++ rest), s.split_text ?_, s.path_url inside begins⟩
  cases path with
  | nil =>
    cases rest with
    | nil => rfl
    | cons c rest => exact endsAuthority_of_endsPath begins
  | cons c path =>
    obtain rfl : c = '/' := by simpa using rooted
    rfl

section

variable {before rest : Text} (inside : ∀ c ∈ before, endsPath c = false)
  (begins : rest.head?.all endsPath = true)

include inside begins

theorem exists_splitScheme_append :
    ∃ later, later <:+ before ∧ (splitScheme (before ++ rest)).2 = later ++ rest := by
  by_cases colon : ':' ∈ before
  · obtain ⟨front, later, rfl, clean⟩ := List.eq_append_cons_of_mem colon
    have shape : (front ++ ':' :: later) ++ rest = front ++ ':' :: (later ++ rest) := by simp
    rw [shape, splitScheme, Text.cut_append_cons clean]
    dsimp only
    split
    · exact ⟨later, (List.suffix_cons _ later).trans (List.suffix_append front _), rfl⟩
    · exact ⟨front ++ ':' :: later, List.suffix_refl _, shape.symm⟩
  · -- A colon after `before` has no scheme before it, since what ends a path stands between.
    refine ⟨before, List.suffix_refl before, ?_⟩
    rw [splitScheme, Text.cut_append colon]
    cases rest with
    | nil => rfl
    | cons c rest =>
      have ends : endsPath c = true := begins
      have noScheme : isSchemeChar c = false ∧ Text.cut ':' (c :: rest) =
          (c :: (Text.cut ':' rest).1, (Text.cut ':' rest).2) := by
        simp only [endsPath, Bool.or_eq_true, beq_iff_eq] at ends
        rcases ends with rfl | rfl <;> exact ⟨rfl, rfl⟩
      rw [noScheme.2]
      dsimp only
      split
      · next found =>
        obtain ⟨rfl, -⟩ := Prod.mk.inj found
        rw [if_neg (by simp [noScheme.1])]
      · rfl

theorem exists_splitAuthority_append :
    ∃ later, later <:+ before ∧ (splitAuthority (before ++ rest)).2 = later ++ rest := by
  have stays : rest.dropWhile (!endsAuthority ·) = rest := by
    cases rest with
    | nil => rfl
    | cons c rest => simp [endsAuthority_of_endsPath begins]
  unfold splitAuthority
  split
  · next r shape =>
    have slashes : ∃ later, before = '/' :: '/' :: later ∧ r = later ++ rest := by
      have shape : before ++ rest = ['/', '/'] ++ r := shape
      rcases List.append_eq_append_iff.mp shape with ⟨front, both, rfl⟩ | ⟨later, rfl, follows⟩
      · cases front with
        | nil => exact ⟨[], by simpa using both.symm, rfl⟩
        | cons c front =>
          have slash : ∀ d ∈ ['/', '/'], endsPath d = false := by simp [endsPath]
          rw [both] at slash
          have ends : endsPath c = true := begins
          rw [slash c (List.mem_append_right _ List.mem_cons_self)] at ends
          cases ends
      · exact ⟨later, rfl, follows⟩
    obtain ⟨later, rfl, rfl⟩ := slashes
    refine ⟨later.dropWhile (!endsAuthority ·), ?_, ?_⟩
    · exact (List.dropWhile_suffix _).trans
        ((List.suffix_cons _ later).trans (List.suffix_cons _ _))
    · dsimp only
      rw [List.dropWhile_append]
      split
      · next empty => rw [List.isEmpty_iff.mp empty, stays, List.nil_append]
      · rfl
  · exact ⟨before, List.suffix_refl before, rfl⟩

end

/-- The query of a URL is read in what follows the path, whatever stands before. -/
theorem query_parts {before rest : Text} (inside : ∀ c ∈ before, endsPath c = false)
    (begins : rest.head?.all endsPath = true) :
    (parts (before ++ rest)).query =
      (Text.cut '?' (Text.cut '#' (rest.filter (!isSkipped ·))).1).2.getD [] := by
  have visible : ∀ c ∈ kept before, endsPath c = false := fun c member =>
    inside c ((List.dropWhile_sublist _).subset (List.mem_filter.mp member).1)
  have follows := begins_filter toNat_of_endsPath begins
  obtain ⟨t, inBefore, scheme⟩ := exists_splitScheme_append visible follows
  have passed : ∀ c ∈ t, endsPath c = false := fun c member => visible c (inBefore.subset member)
  obtain ⟨path, inPath, authority⟩ := exists_splitAuthority_append passed follows
  have cut := cut_query (fun c member => passed c (inPath.subset member))
    (rest.filter (!isSkipped ·))
  change (Text.cut '?' (Text.cut '#'
    (splitAuthority (splitScheme (kept (before ++ rest))).2).2).1).2.getD [] = _
  rw [kept_append toNat_of_endsPath begins, scheme, authority, cut]

/-! ### URLs of plain hosts -/

def isHostChar (c : Char) : Bool := c.isAlphanum || c == '.' || c == '-' || c == ':'

theorem toNat_of_isHostChar {c : Char} (plain : isHostChar c = true) :
    0x20 < c.toNat ∧ c.toNat < 0x7B := by
  simp only [isHostChar, Bool.or_eq_true, beq_iff_eq] at plain
  rcases plain with ((alphanum | rfl) | rfl) | rfl
  · have bounds := Text.toNat_of_isAlphanum alphanum
    omega
  · decide
  · decide
  · decide

theorem not_mem_host {host : Text} (plain : ∀ c ∈ host, isHostChar c = true) {c : Char}
    (other : isHostChar c = false) : c ∉ host := by
  intro member
  rw [plain c member] at other
  cases other

theorem endsAuthority_of_isHostChar {c : Char} (plain : isHostChar c = true) :
    endsAuthority c = false := by
  have bounds := toNat_of_isHostChar plain
  exact Text.forall_ascii (P := fun c => isHostChar c = true → endsAuthority c = false) (by decide)
    (by omega) plain

/-- The site of a plain host. -/
def Site.https (host : Text) (plain : ∀ c ∈ host, isHostChar c = true) : Site where
  scheme := "https"
  authority := host
  isScheme := ⟨by decide, by decide⟩
  isAuthority := by
    have bounds := fun c member => toNat_of_isHostChar (plain c member)
    refine ⟨fun c member => ⟨endsAuthority_of_isHostChar (plain c member), ?_⟩, ?_, ?_⟩
    · exact isSkipped_eq_false (Nat.le_of_lt (bounds c member).1)
    · exact checkBrackets_of_not_mem (not_mem_host plain rfl) (not_mem_host plain rfl)
    · exact checkDelimiters_ascii fun c member => Nat.lt_trans (bounds c member).2 (by decide)

/-- The URL of a host and of what follows the slash after it. -/
def ofHttps (host rest : Text) : Url :=
  ⟨"https", host, (Text.cut '?' ('/' :: rest)).1, (Text.cut '?' ('/' :: rest)).2.getD [], []⟩

theorem split_https {host rest : Text} (plain : ∀ c ∈ host, isHostChar c = true)
    (visible : ∀ c ∈ rest, 0x20 < c.toNat ∧ c ≠ '#') :
    split ("https://" ++ host ++ '/' :: rest) = .ok (ofHttps host rest) := by
  have begins : ('/' :: rest).head?.all endsAuthority = true := rfl
  have accepted := (Site.https host plain).split_text begins
  have shown : ('/' :: rest).filter (!isSkipped ·) = '/' :: rest :=
    filter_visible (List.forall_mem_cons.mpr
      ⟨rfl, fun c member => isSkipped_eq_false (Nat.le_of_lt (visible c member).1)⟩)
  have fragment : Text.cut '#' ('/' :: rest) = ('/' :: rest, none) :=
    Text.cut_of_not_mem (List.not_mem_cons_of_ne_of_not_mem (by decide)
      fun member => (visible _ member).2 rfl)
  have cut : (Site.https host plain).url ('/' :: rest) = ofHttps host rest := by
    unfold Site.url
    rw [shown, fragment]
    rfl
  rw [cut] at accepted
  exact accepted

end ImageFiling.Url
