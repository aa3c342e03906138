import ImageFiling.Naming.Destination
import ImageFiling.Proofs.Naming.Substitution
import ImageFiling.Proofs.Result
import ImageFiling.Proofs.Time.Pattern

/-!
# Where an image goes

Only the first template that matches a page counts, and each part of a destination comes from the
pattern of its own field or from the default of the field (`destination_by_first_match`).
-/

namespace ImageFiling

namespace Naming

/-! ### The template in force -/

/-- The first template whose URL pattern matches a page. -/
def inForce? (templates : List Template) (url : Text) : Option Template :=
  templates.find? fun t => Glob.accepts t.url url

theorem findTemplate?_fst (templates : List Template) (url : Text) :
    (findTemplate? templates url).map Prod.fst = inForce? templates url := by
  have firsts := List.zipIdx_map_fst 0 templates
  calc (findTemplate? templates url).map Prod.fst
      = (templates.zipIdx.map Prod.fst).find? fun t => Glob.accepts t.url url := by
        rw [List.find?_map]
        rfl
    _ = inForce? templates url := by rw [firsts, inForce?]

/-- The destination that a template gives, or that of a page without one. -/
def destinationOf (c : Context) (mime : Option Text) (template : Option Template) :
    Except NamingFault Destination := do
  let parts ← c.absolute
  let directory ← directoryOf c parts (template.bind Template.directory)
  let fileName ← fileNameOf c (template.bind Template.fileName)
  let description ← descriptionOf c (template.bind Template.description)
  return ⟨template.isSome, directory, fileName, dotted (Mime.extension mime), description,
    template.any Template.encryption⟩

theorem destination_eq (templates : List Template) (c : Context) (mime : Option Text) :
    destination templates c mime = destinationOf c mime (inForce? templates c.url) := by
  rw [← findTemplate?_fst, destination, destinationOf]
  cases findTemplate? templates c.url <;> rfl

theorem inForce?_of_first {before after : List Template} {t : Template} {url : Text}
    (earlier : ∀ u ∈ before, Glob.accepts u.url url = false)
    (matched : Glob.accepts t.url url = true) :
    inForce? (before ++ t :: after) url = some t := by
  have none : before.find? (fun u => Glob.accepts u.url url) = none := by
    rw [List.find?_eq_none]
    intro u member
    rw [earlier u member]
    exact Bool.false_ne_true
  rw [inForce?, List.find?_append, none, Option.none_or]
  exact List.find?_cons_of_pos matched

theorem inForce?_of_none {templates : List Template} {url : Text}
    (unmatched : ∀ t ∈ templates, Glob.accepts t.url url = false) :
    inForce? templates url = none := by
  rw [inForce?, List.find?_eq_none]
  intro t member
  rw [unmatched t member]
  exact Bool.false_ne_true

theorem inForce?_isSome_iff {templates : List Template} {url : Text} :
    (inForce? templates url).isSome = true ↔ ∃ t ∈ templates, Glob.accepts t.url url = true := by
  rw [inForce?, List.find?_isSome]

/-! ### Patterns and defaults -/

/-- The pattern of a field that counts for a page, which is not empty. -/
def patternFor? (templates : List Template) (url : Text) (field : TemplateField) : Option Text :=
  ((inForce? templates url).bind (·.pattern? field)).filter (!·.isEmpty)

/-- What a directory comes from: a pattern, or else the host of the page. -/
def DirectoryFrom (c : Context) (parts : Url) : Option Text → Text → Prop
  | some pattern, d => substitute { c with field := .directory } pattern = .ok d
  | none, d => d = "/WebImageCategorizer/" ++ parts.host

/-- What a file name comes from: a pattern that does not come out empty, or else the time. -/
def FileNameFrom (c : Context) : Option Text → Text → Prop
  | some pattern, n => ∃ t, substitute { c with field := .fileName } pattern = .ok t ∧
      n = if t = [] then c.now.stamp else t
  | none, n => n = c.now.stamp

def DescriptionFrom (c : Context) : Option Text → Option Text → Prop
  | some pattern, d => ∃ t, substitute { c with field := .description } pattern = .ok t ∧ d = some t
  | none, d => d = none

theorem directoryOf_ok {c : Context} {parts : Url} {pattern : Option Text} {d : Text}
    (rooted : pattern.all (·.head?.all (· == '/')) = true)
    (placed : directoryOf c parts pattern = .ok d) :
    DirectoryFrom c parts (pattern.filter (!·.isEmpty)) d ∧ d.head? = some '/' := by
  match pattern, rooted with
  | none, _ | some [], _ =>
    cases placed
    exact ⟨rfl, rfl⟩
  | some (x :: t), rooted =>
    obtain ⟨u, filled, result⟩ := bind_eq_ok.mp placed
    have slash : x = '/' := by simpa using rooted
    subst slash
    have first := substitute_plain_cons (by decide) filled
    cases u with
    | nil => cases first
    | cons y u =>
      cases result
      exact ⟨filled, first⟩

theorem fileNameOf_none (c : Context) : fileNameOf c none = .ok c.now.stamp :=
  mapError_eq_ok.mpr c.now.format_timestamp

theorem fileNameOf_ok {c : Context} {pattern : Option Text} {n : Text}
    (named : fileNameOf c pattern = .ok n) :
    FileNameFrom c (pattern.filter (!·.isEmpty)) n ∧ n ≠ [] := by
  obtain ⟨u, filled, result⟩ := bind_eq_ok.mp named
  have outcome : n = if u = [] then c.now.stamp else u := by
    cases u with
    | nil => exact (Except.ok.inj ((fileNameOf_none c).symm.trans result)).symm
    | cons y u => exact (Except.ok.inj result).symm
  have n_ne_nil : n ≠ [] := by
    rw [outcome]
    split
    · exact c.now.stamp_ne_nil
    · assumption
  match pattern with
  | none | some [] =>
    cases filled
    exact ⟨outcome, n_ne_nil⟩
  | some (x :: t) => exact ⟨⟨u, filled, outcome⟩, n_ne_nil⟩

theorem descriptionOf_ok {c : Context} {pattern : Option Text} {d : Option Text}
    (described : descriptionOf c pattern = .ok d) :
    DescriptionFrom c (pattern.filter (!·.isEmpty)) d := by
  match pattern with
  | none | some [] =>
    cases described
    rfl
  | some (x :: t) =>
    obtain ⟨u, filled, rfl⟩ := map_eq_ok.mp described
    exact ⟨u, filled, rfl⟩

/-! ### Destinations -/

/-- Each part of a destination comes from its own pattern or default. -/
structure Arranged (templates : List Template) (c : Context) (parts : Url) (d : Destination) :
    Prop where
  directory : DirectoryFrom c parts (patternFor? templates c.url .directory) d.directory
  fileName : FileNameFrom c (patternFor? templates c.url .fileName) d.fileName
  description : DescriptionFrom c (patternFor? templates c.url .description) d.description
  encryption : d.encryption = (inForce? templates c.url).any Template.encryption
  isMatched : d.isMatched = (inForce? templates c.url).isSome
  rooted : d.directory.head? = some '/'
  named : d.fileName ≠ []

theorem parts_of_absolute {c : Context} {parts : Url} (absolute : c.absolute = .ok parts) :
    Url.split c.url = .ok parts := by
  obtain ⟨url, read, result⟩ := bind_eq_ok.mp absolute
  split at result
  · cases result
    exact mapError_eq_ok.mp read
  · cases result

theorem absolute_of_split {c : Context} {parts : Url} (page : Url.split c.url = .ok parts)
    (absolute : parts.isAbsolute = true) : c.absolute = .ok parts := by
  refine bind_eq_ok.mpr ⟨parts, mapError_eq_ok.mpr page, ?_⟩
  rw [if_pos absolute]
  rfl

/-- Without templates there are the defaults. -/
theorem destination_nil {c : Context} {parts : Url} (absolute : c.absolute = .ok parts)
    (mime : Option Text) :
    destination [] c mime = .ok ⟨false, "/WebImageCategorizer/" ++ parts.host, c.now.stamp,
      dotted (Mime.extension mime), none, false⟩ := by
  rw [destination, absolute]
  change (do
    let fileName ← fileNameOf c none
    return Destination.mk false ("/WebImageCategorizer/" ++ parts.host) fileName
      (dotted (Mime.extension mime)) none false) = _
  rw [fileNameOf_none]
  rfl

theorem rooted_inForce (template : Option Template) :
    (template.bind Template.directory).all (·.head?.all (· == '/')) = true := by
  cases template with
  | none => rfl
  | some t => exact t.directory_rooted

theorem destination_arranged {templates : List Template} {c : Context} {mime : Option Text}
    {d : Destination} (placed : destination templates c mime = .ok d) :
    ∃ parts, Url.split c.url = .ok parts ∧ Arranged templates c parts d := by
  rw [destination_eq, destinationOf] at placed
  obtain ⟨parts, absolute, placed⟩ := bind_eq_ok.mp placed
  obtain ⟨directory, inDirectory, placed⟩ := bind_eq_ok.mp placed
  obtain ⟨fileName, called, placed⟩ := bind_eq_ok.mp placed
  obtain ⟨description, described, placed⟩ := bind_eq_ok.mp placed
  cases placed
  obtain ⟨directory_from, rooted⟩ := directoryOf_ok (rooted_inForce _) inDirectory
  obtain ⟨fileName_from, named⟩ := fileNameOf_ok called
  exact ⟨parts, parts_of_absolute absolute,
    ⟨directory_from, fileName_from, descriptionOf_ok described, rfl, rfl, rooted, named⟩⟩

theorem DirectoryFrom.unique {c : Context} {parts : Url} {pattern : Option Text} {d d' : Text}
    (first : DirectoryFrom c parts pattern d) (second : DirectoryFrom c parts pattern d') :
    d = d' := by
  cases pattern with
  | none => exact Eq.trans first (Eq.symm second)
  | some p => exact Except.ok.inj (Eq.trans (Eq.symm first) second)

theorem FileNameFrom.unique {c : Context} {pattern : Option Text} {n n' : Text}
    (first : FileNameFrom c pattern n) (second : FileNameFrom c pattern n') : n = n' := by
  cases pattern with
  | none => exact Eq.trans first (Eq.symm second)
  | some p =>
    obtain ⟨t, filled, rfl⟩ := first
    obtain ⟨t', filled', rfl⟩ := second
    rw [Except.ok.inj (filled.symm.trans filled')]

/-- What templates stand after the first that matches, or before it, makes no difference, and
without one that matches none does. A destination is in a directory from the root and has a file
name; each comes from the pattern of its own field, whatever the patterns of the other fields are.
The timestamp that stands for a file name has fourteen digits. -/
theorem destination_by_first_match (templates : List Template) (c : Context) (mime : Option Text) :
    (∀ before t after, templates = before ++ t :: after →
      (∀ u ∈ before, Glob.accepts u.url c.url = false) → Glob.accepts t.url c.url = true →
      inForce? templates c.url = some t ∧
        destination templates c mime = destination [t] c mime) ∧
    ((∀ t ∈ templates, Glob.accepts t.url c.url = false) →
      inForce? templates c.url = none ∧ destination templates c mime = destination [] c mime) ∧
    (∀ d, destination templates c mime = .ok d →
      (∃ parts, Url.split c.url = .ok parts ∧ Arranged templates c parts d) ∧
      (d.isMatched = true ↔ ∃ t ∈ templates, Glob.accepts t.url c.url = true) ∧
      ∀ others mime' d', destination others c mime' = .ok d' →
        (patternFor? templates c.url .directory = patternFor? others c.url .directory →
          d.directory = d'.directory) ∧
        (patternFor? templates c.url .fileName = patternFor? others c.url .fileName →
          d.fileName = d'.fileName)) ∧
    (c.now.Valid → c.now.date.year ≤ 9999 →
      c.now.stamp.length = 14 ∧ ∀ x ∈ c.now.stamp, x.isDigit = true) := by
  refine ⟨?_, ?_, ?_, ?_⟩
  · rintro before t after rfl earlier matched
    have whole : inForce? (before ++ t :: after) c.url = some t :=
      inForce?_of_first earlier matched
    have alone : inForce? ([] ++ [t]) c.url = some t := inForce?_of_first (by simp) matched
    rw [destination_eq, destination_eq, whole]
    exact ⟨rfl, congrArg (destinationOf c mime) alone.symm⟩
  · intro unmatched
    have none := inForce?_of_none unmatched
    rw [destination_eq, destination_eq, none]
    exact ⟨rfl, rfl⟩
  · intro d placed
    obtain ⟨parts, cut, arranged⟩ := destination_arranged placed
    refine ⟨⟨parts, cut, arranged⟩, ?_, ?_⟩
    · rw [arranged.isMatched, inForce?_isSome_iff]
    · intro others mime' d' placed'
      obtain ⟨parts', cut', arranged'⟩ := destination_arranged placed'
      cases cut.symm.trans cut'
      constructor
      · intro same
        have second := arranged'.directory
        rw [← same] at second
        exact arranged.directory.unique second
      · intro same
        have second := arranged'.fileName
        rw [← same] at second
        exact arranged.fileName.unique second
  · intro valid year
    exact ⟨valid.length_stamp year, fun x => Moment.isDigit_of_mem_stamp⟩

/-- A template for another site, which could not be filled. -/
def coast : Template where
  url := "https://example.com/*"
  directory := some "/\x7bcoast\x7d"

/-- A template with a file name that comes out empty, since the page has no title. -/
def inland : Template where
  url := "https://example.net/*"
  directory := some "/sun/\x7bpath-1\x7d"
  fileName := some "\x7btitle\x7d"
  encryption := true

def inlandPage : Context where
  url := "https://example.net/lake"
  title := []
  now := ⟨⟨2024, 2, 29⟩, 12, 30, 5, 0, .ok 3600⟩
  field := .fileName

theorem inland_in_force :
    (∀ u ∈ [coast], Glob.accepts u.url inlandPage.url = false) ∧
    Glob.accepts inland.url inlandPage.url = true ∧
    destination [coast, inland, coast] inlandPage none = destination [inland] inlandPage none ∧
    ∃ d, destination [inland] inlandPage none = .ok d ∧ d.isMatched = true ∧
      d.directory = "/sun/lake" ∧ d.fileName = "20240229123005" := by
  have other : ∀ u ∈ [coast], Glob.accepts u.url inlandPage.url = false := by decide +kernel
  have matched : Glob.accepts inland.url inlandPage.url = true := by decide +kernel
  obtain ⟨-, alone⟩ := (destination_by_first_match [coast, inland, coast] inlandPage none).1
    [coast] inland [coast] rfl other matched
  have placed : destination [inland] inlandPage none =
      .ok ⟨true, "/sun/lake", "20240229123005", ".jpg", none, true⟩ := by decide +kernel
  exact ⟨other, matched, alone, _, placed, rfl, rfl, rfl⟩

end Naming

end ImageFiling
