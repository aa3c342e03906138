import ImageFiling.Proofs.Naming.Faults
import ImageFiling.Proofs.Naming.Glob

/-!
# What a preview shows

The preview of an accepted pattern is its part of the destination under a template of that pattern
alone, which every page matches (`preview_directory_eq`, `preview_fileName_eq`). Under any templates it
shows where the images of a page go if its pattern is in force there, and a parameter that the page lacks
makes both fail (`preview_shows_destination`).
-/

namespace ImageFiling

/-- A template of a directory alone, for every page. -/
def Template.ofDirectory (pattern : Text) (rooted : pattern.head? = some '/') : Template where
  url := ['*']
  directory := some pattern
  directory_rooted := by simp [rooted]

/-- A template of a file name alone, for every page. -/
def Template.ofFileName (pattern : Text) : Template where
  url := ['*']
  fileName := some pattern

namespace Naming

/-- The page for which patterns are previewed. -/
def samplePage (url : Text) (now : Moment) : Context := ⟨url, sampleTitle, now, .fileName⟩

variable {c : Context} {mime : Option Text} {field : TemplateField} {pattern url : Text} {now : Moment}
  {f : NamingFault}

/-! ### Templates for every page -/

theorem accepts_star (url : Text) : Glob.accepts "*" url = true := by
  have woven : Glob.Weaves (Text.pieces '*' "*") url := ⟨[url], rfl, List.append_nil url⟩
  have marked := (Glob.row_marks "*" url).headD_iff.mpr woven
  exact (Bool.and_eq_true _ _).mpr ⟨rfl, marked⟩

theorem inForce?_of_star {t : Template} (star : t.url = "*") : inForce? [t] url = some t := by
  have alone : inForce? ([] ++ [t]) url = some t :=
    inForce?_of_first nofun (star ▸ accepts_star url)
  exact alone

theorem destination_ofDirectory (rooted : pattern.head? = some '/') :
    (destination [.ofDirectory pattern rooted] c mime).map Destination.directory = (do
      let parts ← c.absolute
      directoryOf c parts (some pattern)) := by
  rw [destination_eq, inForce?_of_star rfl, destinationOf]
  cases c.absolute with
  | error e => rfl
  | ok parts =>
    change (do
      let directory ← directoryOf c parts (some pattern)
      let fileName ← fileNameOf c none
      return Destination.mk true directory fileName (dotted (Mime.extension mime)) none false).map
        Destination.directory = directoryOf c parts (some pattern)
    rw [fileNameOf_none]
    cases directoryOf c parts (some pattern) <;> rfl

theorem destination_ofFileName :
    (destination [.ofFileName pattern] c mime).map Destination.fileName = (do
      let _ ← c.absolute
      fileNameOf c (some pattern)) := by
  rw [destination_eq, inForce?_of_star rfl, destinationOf]
  cases c.absolute with
  | error e => rfl
  | ok parts =>
    change (do
      let fileName ← fileNameOf c (some pattern)
      return Destination.mk true ("/WebImageCategorizer/" ++ parts.host) fileName
        (dotted (Mime.extension mime)) none false).map Destination.fileName =
      fileNameOf c (some pattern)
    cases fileNameOf c (some pattern) <;> rfl

/-! ### Previews of accepted patterns -/

theorem preview_of_accepted (known : field ≠ .description)
    (accepted : patternFault? field pattern = .ok none) :
    preview field pattern url now = (do
      let parts ← (samplePage url now).absolute
      if field = .directory then directoryOf (samplePage url now) parts (some pattern)
      else fileNameOf (samplePage url now) (some pattern)) := by
  rw [preview, if_neg known, accepted]
  rfl

/-- The preview of a directory is the directory under a template of nothing else. -/
theorem preview_directory_eq (rooted : pattern.head? = some '/')
    (accepted : patternFault? .directory pattern = .ok none) (mime : Option Text) :
    preview .directory pattern url now =
      (destination [.ofDirectory pattern rooted] (samplePage url now) mime).map
        Destination.directory := by
  rw [preview_of_accepted (by decide) accepted, destination_ofDirectory]
  rfl

/-- The preview of a file name is the file name under a template of nothing else. -/
theorem preview_fileName_eq (accepted : patternFault? .fileName pattern = .ok none)
    (mime : Option Text) :
    preview .fileName pattern url now =
      (destination [.ofFileName pattern] (samplePage url now) mime).map Destination.fileName := by
  rw [preview_of_accepted (by decide) accepted, destination_ofFileName]
  rfl

/-- Only the preview of an accepted pattern fails on what a page lacks. -/
theorem accepted_of_preview_error (known : field ≠ .description)
    (failed : preview field pattern url now = .error f) (kind : f.kind = .resolution) :
    patternFault? field pattern = .ok none := by
  rcases preview_error known failed with ⟨n, -, rfl⟩ | ⟨p, rfl⟩ | ⟨accepted, -⟩
  · cases kind
  · cases kind
  · exact accepted

/-! ### The parts of a destination -/

theorem parts_of_destinationOf {template : Option Template} {d : Destination}
    (placed : destinationOf c mime template = .ok d) :
    ∃ parts, c.absolute = .ok parts ∧
      directoryOf c parts (template.bind Template.directory) = .ok d.directory ∧
      fileNameOf c (template.bind Template.fileName) = .ok d.fileName := by
  obtain ⟨parts, absolute, placed⟩ := bind_eq_ok.mp placed
  obtain ⟨directory, inDirectory, placed⟩ := bind_eq_ok.mp placed
  obtain ⟨fileName, called, placed⟩ := bind_eq_ok.mp placed
  obtain ⟨description, described, placed⟩ := bind_eq_ok.mp placed
  cases placed
  exact ⟨parts, absolute, inDirectory, called⟩

theorem destinationOf_not_absolute {template : Option Template} (relative : c.absolute = .error f) :
    destinationOf c mime template = .error f :=
  bind_eq_error.mpr (.inl relative)

theorem destinationOf_directory_error {template : Option Template} {parts : Url}
    (absolute : c.absolute = .ok parts)
    (failed : directoryOf c parts (template.bind Template.directory) = .error f) :
    destinationOf c mime template = .error f :=
  bind_eq_error.mpr (.inr ⟨parts, absolute, bind_eq_error.mpr (.inl failed)⟩)

/-- A file name that fails does so unless the directory fails before it. -/
theorem destinationOf_fileName_error {template : Option Template} {parts : Url}
    (absolute : c.absolute = .ok parts)
    (failed : fileNameOf c (template.bind Template.fileName) = .error f) :
    destinationOf c mime template = .error f ∨
      ∃ g, directoryOf c parts (template.bind Template.directory) = .error g ∧
        destinationOf c mime template = .error g := by
  cases inDirectory : directoryOf c parts (template.bind Template.directory) with
  | error g => exact .inr ⟨g, rfl, destinationOf_directory_error absolute inDirectory⟩
  | ok directory =>
    refine .inl (bind_eq_error.mpr (.inr ⟨parts, absolute, ?_⟩))
    exact bind_eq_error.mpr (.inr ⟨directory, inDirectory, bind_eq_error.mpr (.inl failed)⟩)

/-- Where images of a page get a directory and a file name by the first template that matches, the
previews of its accepted patterns show them. If the preview of its directory fails on what the page
lacks, the page has no destination, by the same fault; if that of its file name does, there is none
either, by the same fault or by one of the directory, which is filled first. -/
theorem preview_shows_destination {before after : List Template} {t : Template} {url : Text}
    (earlier : ∀ u ∈ before, Glob.accepts u.url url = false)
    (matched : Glob.accepts t.url url = true) (now : Moment) (mime : Option Text) :
    (∀ d, destination (before ++ t :: after) (samplePage url now) mime = .ok d →
      (∀ p, t.directory = some p → p ≠ [] → patternFault? .directory p = .ok none →
        preview .directory p url now = .ok d.directory) ∧
      ∀ p, t.fileName = some p → p ≠ [] → patternFault? .fileName p = .ok none →
        preview .fileName p url now = .ok d.fileName) ∧
    (∀ p f, t.directory = some p → preview .directory p url now = .error f → f.kind = .resolution →
      destination (before ++ t :: after) (samplePage url now) mime = .error f) ∧
    ∀ p f, t.fileName = some p → preview .fileName p url now = .error f → f.kind = .resolution →
      destination (before ++ t :: after) (samplePage url now) mime = .error f ∨
      ∃ g, FailsBy (samplePage url now) .directory t.directory g ∧
        destination (before ++ t :: after) (samplePage url now) mime = .error g := by
  have same : destination (before ++ t :: after) (samplePage url now) mime =
      destinationOf (samplePage url now) mime (some t) := by
    rw [destination_eq]
    exact congrArg (destinationOf (samplePage url now) mime) (inForce?_of_first earlier matched)
  rw [same]
  refine ⟨?_, ?_, ?_⟩
  · intro d placed
    obtain ⟨parts, absolute, inDirectory, called⟩ := parts_of_destinationOf placed
    constructor
    · intro p named _ accepted
      rw [preview_of_accepted (by decide) accepted, absolute]
      change directoryOf (samplePage url now) parts t.directory = .ok d.directory at inDirectory
      rwa [named] at inDirectory
    · intro p named _ accepted
      rw [preview_of_accepted (by decide) accepted, absolute]
      change fileNameOf (samplePage url now) t.fileName = .ok d.fileName at called
      rwa [named] at called
  · intro p f named failed kind
    rw [preview_of_accepted (by decide) (accepted_of_preview_error (by decide) failed kind)] at failed
    rcases bind_eq_error.mp failed with relative | ⟨parts, absolute, unfilled⟩
    · exact destinationOf_not_absolute relative
    · refine destinationOf_directory_error absolute ?_
      rw [Option.bind_some, named]
      exact unfilled
  · intro p f named failed kind
    rw [preview_of_accepted (by decide) (accepted_of_preview_error (by decide) failed kind)] at failed
    rcases bind_eq_error.mp failed with relative | ⟨parts, absolute, unfilled⟩
    · exact .inl (destinationOf_not_absolute relative)
    · have uncalled : fileNameOf (samplePage url now) ((some t).bind Template.fileName) = .error f := by
        rw [Option.bind_some, named]
        exact unfilled
      refine (destinationOf_fileName_error absolute uncalled).imp_right ?_
      rintro ⟨g, inDirectory, unplaced⟩
      exact ⟨g, directoryOf_error inDirectory, unplaced⟩

/-- A template whose file name comes out empty on a page with an empty first part of its path. -/
def shore : Template where
  url := "*example.net/*"
  directory := some "/sun/\x7bpath-2\x7d"
  fileName := some "\x7bpath-1\x7d"

def shoreTime : Moment := ⟨⟨2024, 2, 29⟩, 12, 30, 5, 0, .ok 3600⟩

theorem shore_previewed :
    (∀ u ∈ [coast], Glob.accepts u.url "https://example.net//lake" = false) ∧
    Glob.accepts shore.url "https://example.net//lake" = true ∧
    preview .directory "/sun/\x7bpath-2\x7d" "https://example.net//lake" shoreTime = .ok "/sun/lake" ∧
    preview .fileName "\x7bpath-1\x7d" "https://example.net//lake" shoreTime =
      .ok "20240229123005" ∧
    ∃ f, preview .directory "/sun/\x7bpath-2\x7d" "https://example.net/lake" shoreTime = .error f ∧
      destination ([coast] ++ shore :: [coast]) (samplePage "https://example.net/lake" shoreTime)
        none = .error f := by
  have other : ∀ u ∈ [coast], Glob.accepts u.url "https://example.net//lake" = false := by
    decide +kernel
  have matched : Glob.accepts shore.url "https://example.net//lake" = true := by decide +kernel
  have placed : destination ([coast] ++ shore :: [coast])
      (samplePage "https://example.net//lake" shoreTime) none =
        .ok ⟨true, "/sun/lake", "20240229123005", ".jpg", none, false⟩ := by
    decide +kernel
  obtain ⟨directory, fileName⟩ := (preview_shows_destination other matched shoreTime none).1 _ placed
  have unplaced : preview .directory "/sun/\x7bpath-2\x7d" "https://example.net/lake" shoreTime =
      .error (.noSegment "2" 2) := by
    decide +kernel
  have otherToo : ∀ u ∈ [coast], Glob.accepts u.url "https://example.net/lake" = false := by
    decide +kernel
  have matchedToo : Glob.accepts shore.url "https://example.net/lake" = true := by decide +kernel
  refine ⟨other, matched, directory _ rfl (by decide) (by decide +kernel),
    fileName _ rfl (by decide) (by decide +kernel), _, unplaced, ?_⟩
  exact (preview_shows_destination otherToo matchedToo shoreTime none).2.1 _ _ rfl unplaced rfl

end Naming

end ImageFiling
