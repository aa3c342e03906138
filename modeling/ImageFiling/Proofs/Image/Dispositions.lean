import ImageFiling.Image.Download
import ImageFiling.Proofs.Session.Run
import ImageFiling.Proofs.Text.Pieces
import Mathlib.Data.List.Infix

/-!
# File names in dispositions

A download is named from the first place of its disposition where `filename=` stands, and the name goes
on to the end of the header. So the name that the disposition gives is the one that the image gets
exactly if no parameter stands after it and none before it ends in the same way or has it in its value
(`fileName_of_disposition`).
-/

namespace ImageFiling.Download

/-- A word of a header: the type of a disposition or the name of a parameter. -/
def IsToken (t : Text) : Prop :=
  t ≠ [] ∧ ∀ c ∈ t, Text.isBlank c = false ∧ c ≠ '=' ∧ c ≠ ';' ∧ c ≠ '"'

/-- A parameter other than the file name. Its value, with or without quotation marks, is on one
line. -/
structure Parameter where
  name : Text
  value : Text
  token : IsToken name
  other : name ≠ "filename"
  line : '\n' ∉ value

/-- A disposition with a file name, which needs no escapes, and other parameters around it. -/
structure Disposition where
  type : Text
  before : List Parameter
  fileName : Text
  after : List Parameter
  token : IsToken type
  full : fileName ≠ []
  printable : ∀ c ∈ fileName, 0x20 ≤ c.toNat ∧ c.toNat < 0x7F ∧ c ≠ '"' ∧ c ≠ ';' ∧ c ≠ '\\'

def Parameter.text (p : Parameter) : Text := "; " ++ p.name ++ '=' :: p.value

/-- Whether `filename=` stands in a parameter. -/
def Parameter.Hides (p : Parameter) : Prop :=
  "filename" <:+ p.name ∨ "filename=" <:+: p.value

instance (p : Parameter) : Decidable p.Hides := inferInstanceAs (Decidable (_ ∨ _))

def Disposition.lead (d : Disposition) : Text := d.type ++ d.before.flatMap Parameter.text

def Disposition.trail (d : Disposition) : Text := d.after.flatMap Parameter.text

def Disposition.header (d : Disposition) : Text :=
  d.lead ++ "; filename=\"" ++ d.fileName ++ '"' :: d.trail

/-! ### Words between separators -/

section

variable {word u v : Text} {separator : Char}

theorem prefix_append_cons_iff (absent : separator ∉ word) :
    word <+: u ++ separator :: v ↔ word <+: u := by
  induction word generalizing u with
  | nil => simp
  | cons c word ih =>
    have other : c ≠ separator := (List.ne_of_not_mem_cons absent).symm
    cases u with
    | nil => simp [List.cons_prefix_cons, other]
    | cons d u =>
      rw [List.cons_append, List.cons_prefix_cons, List.cons_prefix_cons,
        ih (List.not_mem_of_not_mem_cons absent)]

/-- A word does not stand across a character that it does not have. -/
theorem infix_append_cons_iff (absent : separator ∉ word) :
    word <:+: u ++ separator :: v ↔ word <:+: u ∨ word <:+: v := by
  induction u with
  | nil =>
    have start : word <+: separator :: v ↔ word <+: [] := prefix_append_cons_iff absent (u := [])
    rw [List.nil_append, List.infix_cons_iff, start, List.prefix_nil, List.infix_nil]
  | cons d u ih =>
    rw [List.cons_append, List.infix_cons_iff, ih, List.infix_cons_iff, ← List.cons_append,
      prefix_append_cons_iff absent, or_assoc]

theorem concat_prefix_append_cons_iff (absent : separator ∉ word) (clean : separator ∉ u) :
    word ++ [separator] <+: u ++ separator :: v ↔ word = u := by
  induction word generalizing u with
  | nil =>
    cases u with
    | nil => simp
    | cons d u => simp [List.cons_prefix_cons, List.ne_of_not_mem_cons clean]
  | cons c word ih =>
    cases u with
    | nil => simp [List.cons_prefix_cons, (List.ne_of_not_mem_cons absent).symm]
    | cons d u =>
      rw [List.cons_append, List.cons_append, List.cons_prefix_cons,
        ih (List.not_mem_of_not_mem_cons absent) (List.not_mem_of_not_mem_cons clean), List.cons.injEq]

/-- A word with the separator after it ends where the separator is, or stands after it. -/
theorem concat_infix_append_cons_iff (absent : separator ∉ word) (clean : separator ∉ u) :
    word ++ [separator] <:+: u ++ separator :: v ↔
      word <:+ u ∨ word ++ [separator] <:+: v := by
  induction u with
  | nil =>
    have start := concat_prefix_append_cons_iff (v := v) absent clean
    rw [List.nil_append] at start ⊢
    rw [List.infix_cons_iff, start, List.suffix_nil]
  | cons d u ih =>
    have start := concat_prefix_append_cons_iff (v := v) absent clean
    rw [List.cons_append] at start ⊢
    rw [List.infix_cons_iff, start, ih (List.not_mem_of_not_mem_cons clean), List.suffix_cons_iff,
      or_assoc]

end

/-! ### Names that go on to the end -/

/-- A text without the quotation mark at its end, unless it is this mark. -/
def unquoted (t : Text) : Text := if t.length ≥ 2 ∧ t.getLast? = some '"' then t.dropLast else t

theorem length_unquoted (t : Text) : t.length ≤ (unquoted t).length + 1 := by
  unfold unquoted
  split
  · rw [List.length_dropLast]
    omega
  · omega

theorem unquoted_concat {t : Text} (full : t ≠ []) : unquoted (t ++ ['"']) = t := by
  have size : (t ++ ['"']).length ≥ 2 := by
    have := List.length_pos_iff.mpr full
    rw [List.length_append, List.length_singleton]
    omega
  rw [unquoted, if_pos ⟨size, List.getLast?_concat⟩, List.dropLast_concat]

theorem nameToEnd?_line {t : Text} (line : '\n' ∉ t) (full : t ≠ []) :
    nameToEnd? t = some (unquoted t) := by
  have last : t.getLast? ≠ some '\n' := fun ends => line (List.mem_of_getLast? ends)
  have kept : unquoted t ≠ [] := by
    unfold unquoted
    split
    · next quoted =>
      intro empty
      have size := congrArg List.length empty
      rw [List.length_dropLast, List.length_nil] at size
      omega
    · exact full
  have clean : '\n' ∉ unquoted t := by
    unfold unquoted
    split
    · exact fun inside => line (List.dropLast_subset t inside)
    · exact line
  unfold nameToEnd?
  rw [if_neg last]
  change (if ((unquoted t).isEmpty || (unquoted t).contains '\n') = true then none
    else some (unquoted t)) = _
  rw [if_neg (by simpa using ⟨kept, clean⟩)]

theorem nameAfter?_quoted {t : Text} (line : '\n' ∉ t) (full : t ≠ []) :
    nameAfter? ('"' :: t) = some (unquoted t) := by
  rw [nameAfter?, nameToEnd?_line line full, Option.some_or]

theorem exists_nameAfter? {t : Text} (line : '\n' ∉ t) (long : 2 ≤ t.length) :
    ∃ name, nameAfter? t = some name ∧ t.length ≤ name.length + 2 := by
  have full : t ≠ [] := by
    rintro rfl
    exact absurd long (by decide)
  unfold nameAfter?
  split
  · next r =>
    have rest : r ≠ [] := by
      rintro rfl
      exact absurd long (by decide)
    refine ⟨unquoted r, ?_, ?_⟩
    · rw [nameToEnd?_line (List.not_mem_of_not_mem_cons line) rest, Option.some_or]
    · have size := length_unquoted r
      rw [List.length_cons]
      omega
  · refine ⟨unquoted t, nameToEnd?_line line full, ?_⟩
    have size := length_unquoted t
    omega

/-! ### The first place -/

theorem proposedName?_of_after? {t rest name : Text} (starts : Text.after? "filename=" t = some rest)
    (named : nameAfter? rest = some name) : proposedName? t = some name := by
  cases t with
  | nil => cases starts
  | cons c r => rw [proposedName?, starts, Option.bind_some, named, Option.some_or]

theorem proposedName?_cons_of_none {c : Char} {r : Text}
    (other : Text.after? "filename=" (c :: r) = none) : proposedName? (c :: r) = proposedName? r := by
  rw [proposedName?, other, Option.bind_none, Option.none_or]

theorem prefix_of_after? {t rest : Text} (starts : Text.after? "filename=" t = some rest) :
    "filename=" <+: t := ⟨rest, Text.append_of_after? starts⟩

/-- The search passes over what does not have `filename=`. -/
theorem proposedName?_append_cons {u : Text} (clear : ¬ "filename=" <:+: u) (v : Text) :
    proposedName? (u ++ ';' :: v) = proposedName? v := by
  induction u with
  | nil => exact proposedName?_cons_of_none rfl
  | cons c u ih =>
    rw [List.infix_cons_iff, not_or] at clear
    have other : Text.after? "filename=" (c :: (u ++ ';' :: v)) = none := by
      refine Option.eq_none_iff_forall_ne_some.mpr ?_
      intro rest starts
      have start := prefix_of_after? starts
      rw [← List.cons_append, prefix_append_cons_iff (by decide)] at start
      exact clear.1 start
    rw [List.cons_append, proposedName?_cons_of_none other, ih clear.2]

/-- The name is at least as long as what stands after any place, but for two quotation marks. -/
theorem exists_proposedName? {u t : Text} (line : '\n' ∉ u ++ "filename=" ++ t)
    (long : 2 ≤ t.length) :
    ∃ name, proposedName? (u ++ "filename=" ++ t) = some name ∧ t.length ≤ name.length + 2 := by
  induction u with
  | nil =>
    have clean : '\n' ∉ t := fun inside => line (List.mem_append_right _ inside)
    obtain ⟨name, named, size⟩ := exists_nameAfter? clean long
    exact ⟨name, proposedName?_of_after? (Text.after?_append _ t) named, size⟩
  | cons c u ih =>
    rw [List.cons_append, List.cons_append] at line ⊢
    cases starts : Text.after? "filename=" (c :: (u ++ "filename=" ++ t)) with
    | none =>
      rw [proposedName?_cons_of_none starts]
      exact ih (List.not_mem_of_not_mem_cons line)
    | some rest =>
      -- An earlier place has even more after it.
      have whole := Text.append_of_after? starts
      have clean : '\n' ∉ rest := by
        intro inside
        rw [← whole] at line
        exact line (List.mem_append_right _ inside)
      have sizes := congrArg List.length whole
      simp only [List.length_append, List.length_cons] at sizes
      obtain ⟨name, named, size⟩ := exists_nameAfter? clean (by omega)
      exact ⟨name, proposedName?_of_after? starts named, by omega⟩

/-! ### Dispositions -/

theorem IsToken.not_mem {t : Text} (token : IsToken t) : '=' ∉ t ∧ '\n' ∉ t := by
  constructor
  · intro inside
    exact (token.2 '=' inside).2.1 rfl
  · intro inside
    exact absurd (token.2 '\n' inside).1 (by decide)

theorem infix_body_iff (p : Parameter) :
    "filename=" <:+: ' ' :: p.name ++ '=' :: p.value ↔ p.Hides := by
  have clean : '=' ∉ ' ' :: p.name := by
    simpa using p.token.not_mem.1
  have absent : '=' ∉ ("filename" : Text) := by decide
  have places := concat_infix_append_cons_iff (v := p.value) absent clean
  have other : ("filename" : Text) ≠ ' ' :: p.name := nofun
  rw [List.suffix_cons_iff, or_iff_right other] at places
  exact places

theorem infix_append_texts_iff (u : Text) (ps : List Parameter) :
    "filename=" <:+: u ++ ps.flatMap Parameter.text ↔
      "filename=" <:+: u ∨ ∃ p ∈ ps, p.Hides := by
  induction ps generalizing u with
  | nil => simp
  | cons p ps ih =>
    have shape : u ++ (p :: ps).flatMap Parameter.text =
        u ++ ';' :: ((' ' :: p.name ++ '=' :: p.value) ++ ps.flatMap Parameter.text) := rfl
    rw [shape, infix_append_cons_iff (by decide), ih, infix_body_iff]
    simp

theorem not_mem_texts (ps : List Parameter) : '\n' ∉ ps.flatMap Parameter.text := by
  intro inside
  obtain ⟨p, -, inText⟩ := List.mem_flatMap.mp inside
  have token := p.token.not_mem.2
  have line := p.line
  simp only [Parameter.text, List.mem_append, List.mem_cons, token, line, or_false] at inText
  exact absurd inText (by decide)

theorem Parameter.length_text (p : Parameter) : 0 < p.text.length := by
  simp only [Parameter.text, List.length_append, List.length_cons]
  omega

namespace Disposition

variable (d : Disposition)

theorem infix_lead_iff : "filename=" <:+: d.lead ↔ ∃ p ∈ d.before, p.Hides := by
  have clean : ¬ "filename=" <:+: d.type := by
    intro inside
    exact d.token.not_mem.1 (inside.subset (by decide))
  rw [lead, infix_append_texts_iff, or_iff_right clean]

theorem not_mem_fileName : '\n' ∉ d.fileName := by
  intro inside
  exact absurd (d.printable '\n' inside).1 (by decide)

theorem not_mem_header : '\n' ∉ d.header := by
  simp only [header, lead, trail, List.mem_append, List.mem_cons, not_mem_texts, d.not_mem_fileName,
    d.token.not_mem.2, or_false]
  decide

theorem trail_eq_nil_iff : d.trail = [] ↔ d.after = [] := by
  rw [trail, List.flatMap_eq_nil_iff]
  constructor
  · intro empty
    refine List.eq_nil_iff_forall_not_mem.mpr ?_
    intro p member
    exact List.length_pos_iff.mp p.length_text (empty p member)
  · intro last
    rw [last]
    exact nofun

theorem header_eq : d.header =
    d.lead ++ ';' :: (' ' :: ("filename=" ++ '"' :: (d.fileName ++ '"' :: d.trail))) := by
  simp [header]

/-- A name that is not hidden goes on to the end of the header. -/
theorem proposedName?_header (clear : ∀ p ∈ d.before, ¬ p.Hides) :
    proposedName? d.header = some (unquoted (d.fileName ++ '"' :: d.trail)) := by
  have search : ¬ "filename=" <:+: d.lead := by
    rw [infix_lead_iff]
    rintro ⟨p, member, hides⟩
    exact clear p member hides
  have line : '\n' ∉ d.fileName ++ '"' :: d.trail := by
    have whole := d.not_mem_header
    rw [header, List.append_assoc] at whole
    exact fun inside => whole (List.mem_append_right _ inside)
  have full : d.fileName ++ '"' :: d.trail ≠ [] := by simp
  rw [header_eq, proposedName?_append_cons search, proposedName?_cons_of_none rfl]
  exact proposedName?_of_after? (Text.after?_append _ _) (nameAfter?_quoted line full)

/-- A parameter that hides the name puts more in its place. -/
theorem exists_proposedName?_of_hides {p : Parameter} (member : p ∈ d.before) (hides : p.Hides) :
    ∃ name, proposedName? d.header = some name ∧ d.fileName.length < name.length := by
  obtain ⟨u, v, found⟩ := d.infix_lead_iff.mpr ⟨p, member, hides⟩
  have shape : d.header = u ++ "filename=" ++ (v ++ "; filename=\"" ++ d.fileName ++ '"' :: d.trail) := by
    rw [header, ← found]
    simp only [List.append_assoc]
  have size : d.fileName.length + 2 < (v ++ "; filename=\"" ++ d.fileName ++ '"' :: d.trail).length := by
    have written : ("; filename=\"" : Text).length = 12 := rfl
    rw [List.length_append, List.length_append, List.length_append, written, List.length_cons]
    omega
  have line := d.not_mem_header
  rw [shape] at line ⊢
  obtain ⟨name, named, long⟩ := exists_proposedName? line (by omega)
  exact ⟨name, named, by omega⟩

theorem proposedName?_eq_fileName_iff :
    proposedName? d.header = some d.fileName ↔ d.after = [] ∧ ∀ p ∈ d.before, ¬ p.Hides := by
  by_cases clear : ∀ p ∈ d.before, ¬ p.Hides
  · rw [d.proposedName?_header clear, Option.some_inj, and_iff_left clear, ← trail_eq_nil_iff]
    constructor
    · intro same
      -- Only one quotation mark is left out at the end, and that is the one of the name.
      have size := length_unquoted (d.fileName ++ '"' :: d.trail)
      rw [same, List.length_append, List.length_cons] at size
      exact List.length_eq_zero_iff.mp (by omega)
    · intro last
      rw [last, unquoted_concat d.full]
  · refine iff_of_false ?_ (fun both => clear both.2)
    push Not at clear
    obtain ⟨p, member, hides⟩ := clear
    obtain ⟨name, named, long⟩ := d.exists_proposedName?_of_hides member hides
    rw [named]
    intro same
    rw [Option.some.inj same] at long
    exact Nat.lt_irrefl _ long

end Disposition

/-! ### Downloads -/

variable {σ : Type}

/-- A download that is answered has the content of the reply, and the file name of its disposition
exactly if this is the last parameter and no other before it has `filename=` in it. -/
theorem fileName_of_disposition (d : Disposition) {url : Text} {page : Option Text} {w : World σ}
    {s : σ} {r : Http.Response}
    (answered : (w.serve ⟨"GET", .text url, .headers (headers page)⟩ s).1 = .response r)
    (accepted : r.isOk = true) (disposition : r.header? "Content-Disposition" = some d.header) :
    ∃ image, (Download.image url page w s).result = .ok image ∧ image.content = r.body ∧
      (image.fileName = some d.fileName ↔ d.after = [] ∧ ∀ p ∈ d.before, ¬ p.Hides) := by
  refine ⟨ofResponse r, ?_, rfl, ?_⟩
  · have replied : (Session.send ⟨"GET", .text url, .headers (headers page)⟩ w s).result =
        .ok (.response r) := congrArg Except.ok answered
    unfold Download.image
    rw [Session.note_bind, Session.bind_of_ok replied]
    simp only [if_pos accepted]
    rfl
  · rw [← d.proposedName?_eq_fileName_iff, ofResponse, disposition, Option.bind_some]

def picture (disposition : Text) : Http.Response :=
  ⟨200, "OK", [("Content-Disposition", disposition)], .error "no value", "", [0x69, 0x6D]⟩

/-- A server that answers every request with this picture. -/
def gallery (disposition : Text) : World Unit where
  serve _ s := (.response (picture disposition), s)
  clock _ := ⟨⟨2025, 1, 2⟩, 3, 4, 5, 0, .ok 0⟩

def catAddress : Text := "https://cdn.example.com/cat"

/-- A cat whose name is the last parameter. -/
def sizedCat : Disposition where
  type := "attachment"
  before := [⟨"size", "3", ⟨nofun, List.forall_iff_forall_mem.mp (by decide)⟩, by decide, by decide⟩]
  fileName := "cat.jpg"
  after := []
  token := ⟨nofun, List.forall_iff_forall_mem.mp (by decide)⟩
  full := nofun
  printable := List.forall_iff_forall_mem.mp (by decide)

/-- The same cat with the parameters in the other order. -/
def catWithSize : Disposition := { sizedCat with before := [], after := sizedCat.before }

theorem sizedCat_named :
    ((gallery sizedCat.header).serve ⟨"GET", .text catAddress, .headers (headers none)⟩ ()).1 =
        .response (picture sizedCat.header) ∧
      ∃ image, (Download.image catAddress none (gallery sizedCat.header) ()).result = .ok image ∧
        image.fileName = some "cat.jpg" := by
  have answered : ((gallery sizedCat.header).serve
      ⟨"GET", .text catAddress, .headers (headers none)⟩ ()).1 = .response (picture sizedCat.header) :=
    rfl
  obtain ⟨image, loaded, -, named⟩ := fileName_of_disposition sizedCat answered rfl rfl
  exact ⟨answered, image, loaded, named.mpr ⟨rfl, by decide⟩⟩

/-- The parameter after the name becomes a part of it. -/
theorem catWithSize_renamed :
    catWithSize.fileName = "cat.jpg" ∧
      catWithSize.header = "attachment; filename=\"cat.jpg\"; size=3" ∧
      (Download.image catAddress none (gallery catWithSize.header) ()).result =
        .ok ⟨[0x69, 0x6D], none, some "cat.jpg\"; size=3"⟩ :=
  ⟨rfl, rfl, rfl⟩

end ImageFiling.Download
