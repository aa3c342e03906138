import ImageFiling.Proofs.Naming.Acceptance
import ImageFiling.Proofs.Naming.DirectoryPieces
import ImageFiling.Proofs.Session.Saving
import ImageFiling.Proofs.Storage.ObjectKeys
import ImageFiling.Proofs.Storage.ObjectUrls
import ImageFiling.Proofs.Storage.UploadFaults

/-!
# Objects that images become

An image that is saved to an object store becomes the object with the key of its directory and its
name. A name is made sure not to be empty before its slashes are dropped, so that the key can still
be: `save_targets_key` says when it is, and what a page must hold for it.
-/

namespace ImageFiling

/-! ### Texts of slashes -/

def OnlySlashes (t : Text) : Prop := ∀ c ∈ t, c = '/'

theorem onlySlashes_append {t u : Text} :
    OnlySlashes (t ++ u) ↔ OnlySlashes t ∧ OnlySlashes u := List.forall_mem_append

theorem OnlySlashes.slash_mem {t : Text} (slashes : OnlySlashes t) (filled : t ≠ []) : '/' ∈ t := by
  obtain ⟨c, r, rfl⟩ := List.exists_cons_of_ne_nil filled
  rw [slashes c List.mem_cons_self]
  exact List.mem_cons_self

theorem FolderService.segments_eq_nil_iff {t : Text} :
    FolderService.segments t = [] ↔ OnlySlashes t := by
  have empty : FolderService.segments t = [] ↔ ∀ piece ∈ Text.pieces '/' t, piece = [] := by
    simp [FolderService.segments]
  rw [empty]
  constructor
  · intro none c member
    by_contra other
    obtain ⟨piece, isPiece, inside⟩ := (Text.mem_iff_mem_pieces other).mp member
    rw [none piece isPiece] at inside
    cases inside
  · intro slashes piece isPiece
    cases piece with
    | nil => rfl
    | cons c r =>
      obtain ⟨other, member⟩ := Text.of_mem_piecesBy isPiece List.mem_cons_self
      rw [slashes c member] at other
      cases other

theorem ObjectStore.objectKey_eq_nil_iff {directory fileName : Text} :
    ObjectStore.objectKey directory fileName = [] ↔
      OnlySlashes directory ∧ OnlySlashes fileName := by
  rw [← FolderService.segments_eq_nil_iff, ← FolderService.segments_eq_nil_iff,
    ← List.append_eq_nil_iff, ObjectStore.objectKey_eq_joined]
  constructor
  · intro empty
    have segments := ObjectStore.segments_objectKey directory fileName
    rw [ObjectStore.objectKey_eq_joined, empty] at segments
    exact segments.symm
  · intro none
    rw [none]
    rfl

namespace Naming

/-! ### Where slashes come from -/

/-- A page whose title, or whose query for this parameter, is nothing but slashes. -/
inductive ShowsSlashes (c : Context) (parts : Url) : Parameter → Prop where
  | title (filled : c.title ≠ []) (slashes : OnlySlashes c.title) : ShowsSlashes c parts .title
  | query {name value : Text} (first : Query.first? parts.query name = some value)
    (filled : value ≠ []) (slashes : OnlySlashes value) : ShowsSlashes c parts (.query name)

variable {c : Context} {parts : Url}

theorem slash_not_mem_of_accepted {pattern : Text}
    (accepted : patternFault? .fileName pattern = .ok none) : '/' ∉ pattern := by
  obtain ⟨-, plain, -⟩ := patternFault?_eq_none.mp accepted
  have passes : HasForm PassesAsName .fileName pattern := hasForm_iff.mpr ⟨nofun, plain⟩
  intro slash
  rcases passes with name | ⟨u, rfl, free⟩
  · exact absurd (name.2 '/' slash) (by decide)
  · rcases List.mem_append.mp slash with inside | final
    · exact absurd (free '/' inside) (by decide)
    · exact absurd (List.mem_singleton.mp final) (by decide)

/-- A parameter of a file name brings a slash into it only from the title or the query of a page. -/
theorem source_of_slash {p : Parameter} {u : Text} (page : Url.split c.url = .ok parts)
    (supported : isSupported .fileName p.token = .ok true) (clean : '/' ∉ p.token)
    (resolved : resolve { c with field := .fileName } p.token = .ok u) (slash : '/' ∈ u) :
    (p = .title ∧ u = c.title) ∨
      ∃ name, p = .query name ∧ u ≠ [] ∧ Query.first? parts.query name = some u := by
  have other (sort : p.IsPlaceOrTime) : False :=
    slash_not_mem_resolved sort supported clean resolved slash
  have text := (resolve_token (c := { c with field := .fileName }) page p).symm.trans resolved
  cases p with
  | title =>
    cases text
    exact .inl ⟨rfl, rfl⟩
  | query name =>
    obtain ⟨filled, first⟩ := queryValue_eq_ok.mp text
    exact .inr ⟨name, rfl, filled, first⟩
  | url => cases text
  | host => exact (other .host).elim
  | path number => exact (other (.path number)).elim
  | now | today | date => exact (other (.date ⟨_, rfl⟩)).elim

/-- A file name of nothing but slashes is one of a pattern that asks for such a text of the page. -/
theorem showsSlashes_of_fileName {pattern r : Text} (page : Url.split c.url = .ok parts)
    (accepted : patternFault? .fileName pattern = .ok none)
    (filled : substitute { c with field := .fileName } pattern = .ok r) (some : r ≠ [])
    (slashes : OnlySlashes r) :
    ∃ tokens p, tokens? pattern = .some tokens ∧ Parameter.token p ∈ tokens ∧
      ShowsSlashes c parts p := by
  have clean := slash_not_mem_of_accepted accepted
  obtain ⟨-, -, tokens, read, passes⟩ := patternFault?_eq_none.mp accepted
  obtain ⟨l, rfl, rfl⟩ := exists_layout read
  rw [substitute_text] at filled
  rcases l.source_of_mem filled (slashes.slash_mem some) with
    written | ⟨token, member, u, resolved, slash⟩
  · exact (clean written).elim
  obtain ⟨content, rfl⟩ := Layout.exists_braced member
  obtain ⟨supported, name⟩ := passes _ member
  cases known : Parameter.ofContent? content with
  | none =>
    have unknown := resolve_of_none (c := { c with field := .fileName }) page known
    cases unknown.symm.trans resolved
  | some p =>
    obtain rfl := Parameter.ofContent?_eq_some.mp known
    have free : '/' ∉ p.token := fun inside =>
      absurd (isFileName_braced.mp name '/' inside) (by decide)
    obtain ⟨v, again, part⟩ := l.exists_infix_of_mem filled member
    obtain rfl := Except.ok.inj (resolved.symm.trans again)
    have bare : OnlySlashes u := fun x inside => slashes x (part.subset inside)
    refine ⟨l.tokens, p, read, member, ?_⟩
    rcases source_of_slash page supported free resolved slash with
      ⟨rfl, rfl⟩ | ⟨name, rfl, filled, first⟩
    · exact .title (List.ne_nil_of_mem slash) bare
    · exact .query first filled bare

/-! ### Destinations of slashes -/

theorem directory_pattern_of_slashes {d : Text} {pattern : Option Text}
    (placed : DirectoryFrom c parts pattern d) (slashes : OnlySlashes d) :
    ∃ p, pattern = some p := by
  cases pattern with
  | some p => exact ⟨p, rfl⟩
  | none =>
    obtain rfl : d = "/WebImageCategorizer/" ++ parts.host := placed
    have letter : 'W' ∈ "/WebImageCategorizer/" ++ parts.host :=
      List.mem_append_left _ (by decide)
    exact absurd (slashes 'W' letter) (by decide)

theorem not_onlySlashes_stamp (m : Moment) : ¬ OnlySlashes m.stamp := by
  intro slashes
  have digit := Moment.isDigit_of_mem_stamp (slashes.slash_mem m.stamp_ne_nil)
  exact absurd digit (by decide)

theorem fileName_pattern_of_slashes {n : Text} {pattern : Option Text}
    (named : FileNameFrom c pattern n) (slashes : OnlySlashes n) :
    ∃ p, pattern = some p ∧ n ≠ [] ∧ substitute { c with field := .fileName } p = .ok n := by
  cases pattern with
  | none =>
    obtain rfl : n = c.now.stamp := named
    exact (not_onlySlashes_stamp _ slashes).elim
  | some p =>
    obtain ⟨t, filled, rfl⟩ := named
    by_cases empty : t = []
    · rw [if_pos empty] at slashes
      exact (not_onlySlashes_stamp _ slashes).elim
    · rw [if_neg empty]
      exact ⟨p, rfl, empty, filled⟩

end Naming

namespace Saving

open Naming

variable {σ : Type} {s : ObjectStore} {templates : List Template} {page : Page} {image : Image}
  {e : Encryption σ} {now : Option Moment} {w : World σ} {t : σ} {d : Destination} {u : Upload}

/-! ### Names and keys -/

/-- The name under which an image is stored. -/
def storedName (d : Destination) (e : Encryption σ) : Text :=
  d.fileName ++ d.extension ++ if (passwordFor d e).isSome then encryptedEnding else []

/-- The key of the object that an image becomes. -/
def keyOf (d : Destination) (e : Encryption σ) : Text :=
  ObjectStore.objectKey d.directory (storedName d e)

theorem uploadFor_named (ready : (uploadFor d image e w t).result = .ok u) :
    u.directory = d.directory ∧ u.fileName = storedName d e := by
  unfold storedName
  cases password : passwordFor d e with
  | none =>
    rw [uploadFor_plain password] at ready
    cases ready
    exact ⟨rfl, (List.append_nil _).symm⟩
  | some secret =>
    cases available : e.cipher with
    | none =>
      rw [uploadFor_noCipher password available] at ready
      cases ready
    | some cipher =>
      rw [uploadFor_cipher password available] at ready
      obtain ⟨content, -, ends⟩ := Session.bind_result_ok ready
      cases ends
      exact ⟨rfl, rfl⟩

theorem onlySlashes_dotted {extension : Text} :
    OnlySlashes (dotted extension) ↔ extension = [] := by
  cases extension with
  | nil => simp [dotted, OnlySlashes]
  | cons c r =>
    refine ⟨fun slashes => ?_, nofun⟩
    exact absurd (slashes '.' List.mem_cons_self) (by decide)

theorem keyOf_eq_nil_iff :
    keyOf d e = [] ↔ OnlySlashes d.directory ∧ OnlySlashes d.fileName ∧ OnlySlashes d.extension ∧
      passwordFor d e = none := by
  have ending : OnlySlashes (if (passwordFor d e).isSome then encryptedEnding else []) ↔
      passwordFor d e = none := by
    cases passwordFor d e with
    | none => simp [OnlySlashes]
    | some secret => simp [OnlySlashes, encryptedEnding]
  unfold keyOf storedName
  rw [ObjectStore.objectKey_eq_nil_iff, onlySlashes_append, onlySlashes_append, ending, and_assoc]

/-! ### Requests -/

/-- At most one request, which puts something under a key. -/
structure PutsOnce (s : ObjectStore) (key : Text) (sent : List Http.Request) : Prop where
  length_le : sent.length ≤ 1
  puts : ∀ r ∈ sent, r.method = "PUT" ∧ r.address = .text (s.objectUrl key)

theorem putsOnce_nil (s : ObjectStore) (key : Text) : PutsOnce s key [] := ⟨Nat.zero_le 1, nofun⟩

theorem upload_putsOnce (s : ObjectStore) (u : Upload) (w : World σ) (t : σ) :
    PutsOnce s (ObjectStore.objectKey u.directory u.fileName) (s.upload u w t).sent := by
  rw [ObjectStore.upload_sent]
  rcases ObjectStore.send_sent_or_failed "PUT"
    (s.objectUrl (ObjectStore.objectKey u.directory u.fileName)) (ObjectStore.fileHeaders u)
    u.content with ⟨signed, sent⟩ | ⟨nothing, -⟩
  · rw [sent]
    refine ⟨Nat.le_refl 1, fun r member => ?_⟩
    rw [List.mem_singleton.mp member]
    exact ⟨rfl, rfl⟩
  · rw [nothing]
    exact putsOnce_nil s _

theorem filed_putsOnce (s : ObjectStore) (d : Destination) (e : Encryption σ) (u : Upload)
    (w : World σ) (t : σ) :
    PutsOnce s (ObjectStore.objectKey u.directory u.fileName) (filed s.client d e u w t).sent := by
  cases measured : Size.text (some (.int u.content.length)) with
  | error f =>
    rw [filed_unmeasured measured]
    exact putsOnce_nil s _
  | ok size =>
    rw [filed_measured measured]
    exact upload_putsOnce s u w t

theorem upload_stored {id : Text} (stored : (s.upload u w t).result = .ok (.text id)) :
    id = ObjectStore.objectKey u.directory u.fileName ∧ (s.upload u w t).sent ≠ [] := by
  obtain ⟨answer, reply, put⟩ := ObjectStore.upload_result stored
  refine ⟨Json.text.inj answer, ?_⟩
  rw [ObjectStore.upload_sent]
  rcases ObjectStore.send_sent_or_failed "PUT"
    (s.objectUrl (ObjectStore.objectKey u.directory u.fileName)) (ObjectStore.fileHeaders u)
    u.content with ⟨signed, sent⟩ | ⟨-, f, failed⟩
  · rw [sent]
    exact List.cons_ne_nil _ _
  · cases put.symm.trans failed

theorem filed_stored {saved : Saved} (ends : (filed s.client d e u w t).result = .ok saved) :
    saved.remoteId = ObjectStore.objectKey u.directory u.fileName ∧
      (filed s.client d e u w t).sent ≠ [] := by
  obtain ⟨id, sent⟩ := upload_stored (s := s) (filed_ok ends).1
  refine ⟨id, ?_⟩
  cases measured : Size.text (some (.int u.content.length)) with
  | error f =>
    rw [filed_unmeasured measured] at ends
    cases ends
  | ok size =>
    rw [filed_measured measured]
    exact sent

theorem saveTo_puts (s : ObjectStore) (d : Destination) (image : Image) (e : Encryption σ)
    (w : World σ) (t : σ) :
    ∃ puts, (saveTo s.client d image e w t).sent = (uploadFor d image e w t).sent ++ puts ∧
      PutsOnce s (keyOf d e) puts ∧
      ∀ saved, (saveTo s.client d image e w t).result = .ok saved →
        saved.remoteId = keyOf d e ∧ puts ≠ [] := by
  cases ready : (uploadFor d image e w t).result with
  | error f =>
    rw [saveTo, Session.bind_of_error ready]
    refine ⟨[], (List.append_nil _).symm, putsOnce_nil s _, ?_⟩
    intro saved ends
    cases ends
  | ok u =>
    obtain ⟨directory, name⟩ := uploadFor_named ready
    have key : ObjectStore.objectKey u.directory u.fileName = keyOf d e := by
      rw [directory, name]
      rfl
    have puts := filed_putsOnce s d e u w (uploadFor d image e w t).state
    rw [saveTo, Session.bind_of_ok ready]
    refine ⟨_, rfl, key ▸ puts, fun saved ends => ?_⟩
    rw [← key]
    exact filed_stored ends

theorem extension_of_place {m : Moment} (placed : place templates page image m = .ok d) :
    d.extension = dotted (Mime.extension image.mime) := by
  unfold place at placed
  rw [destination_eq, destinationOf] at placed
  obtain ⟨parts, -, placed⟩ := bind_eq_ok.mp placed
  obtain ⟨directory, -, placed⟩ := bind_eq_ok.mp placed
  obtain ⟨fileName, -, placed⟩ := bind_eq_ok.mp placed
  obtain ⟨description, -, placed⟩ := bind_eq_ok.mp placed
  cases placed
  rfl

theorem accepted_of_patternFor? {url pattern : Text}
    (accepted : ∀ template ∈ templates, templateFaults template = .ok []) {field : TemplateField}
    (found : patternFor? templates url field = some pattern) :
    patternFault? field pattern = .ok none := by
  obtain ⟨given, filled⟩ := Option.filter_eq_some_iff.mp found
  obtain ⟨template, inForce, named⟩ := Option.bind_eq_some_iff.mp given
  have member := List.mem_of_find?_eq_some inForce
  have some : pattern ≠ [] := by simpa using filled
  exact isAccepted_of_templateFaults (accepted template member) field pattern named some

/-- An image is saved to an object store by one request at most, beside those of the cipher. It puts
the image under the key of the directory and the name, and that key is what a saved image is told
by. The key is empty exactly if directory and name are nothing but slashes, there is no extension and
nothing is encrypted. With accepted templates, that takes patterns for both, and a page whose title or
query shows nothing but slashes where the one for the name asks for it. -/
theorem save_targets_key
    (accepted : ∀ template ∈ templates, templateFaults template = .ok [])
    (placed : place templates page image (now.getD (w.clock t)) = .ok d) :
    let run := save s.client templates page image e now w t
    (∃ puts, run.sent = (uploadFor d image e w t).sent ++ puts ∧ PutsOnce s (keyOf d e) puts ∧
      ∀ saved, run.result = .ok saved → saved.remoteId = keyOf d e ∧ puts ≠ []) ∧
    (keyOf d e = [] ↔ OnlySlashes d.directory ∧ OnlySlashes d.fileName ∧
      Mime.extension image.mime = [] ∧ passwordFor d e = none) ∧
    (keyOf d e = [] → ∃ parts directory fileName tokens p, Url.split page.url = .ok parts ∧
      patternFor? templates page.url .directory = some directory ∧
      patternFor? templates page.url .fileName = some fileName ∧
      tokens? fileName = some tokens ∧ Parameter.token p ∈ tokens ∧
      ShowsSlashes ⟨page.url, page.title, now.getD (w.clock t), .fileName⟩ parts p) := by
  have empty : keyOf d e = [] ↔ OnlySlashes d.directory ∧ OnlySlashes d.fileName ∧
      Mime.extension image.mime = [] ∧ passwordFor d e = none := by
    rw [keyOf_eq_nil_iff, extension_of_place placed, onlySlashes_dotted]
  dsimp only
  rw [save_placed placed]
  refine ⟨saveTo_puts s d image e w t, empty, fun none => ?_⟩
  obtain ⟨inDirectory, inName, -⟩ := empty.mp none
  obtain ⟨parts, page', arranged⟩ := destination_arranged placed
  obtain ⟨directory, directoryFound⟩ := directory_pattern_of_slashes arranged.directory inDirectory
  obtain ⟨fileName, found, filled, named⟩ := fileName_pattern_of_slashes arranged.fileName inName
  obtain ⟨tokens, p, read, member, shows⟩ :=
    showsSlashes_of_fileName page' (accepted_of_patternFor? accepted found) named filled inName
  exact ⟨parts, directory, fileName, tokens, p, page', directoryFound, found, read, member, shows⟩

/-- A template that puts images under their titles, at the top of a store. -/
def shelf : Template where
  url := "https://www.example.com/*"
  directory := some "/"
  fileName := some "\x7btitle\x7d"

def titled (title : Text) : Page := ⟨"https://www.example.com/a", title⟩

def dusk : Moment := ⟨⟨2025, 1, 2⟩, 18, 4, 5, 0, .ok 0⟩

theorem shelf_accepted : ∀ template ∈ [shelf], templateFaults template = .ok [] := by
  decide +kernel

/-- The slashes around a title are dropped, and what is left makes the key. -/
theorem photo_targets_object :
    let photo : Image := ⟨[105, 109, 103], none, none⟩
    (∀ template ∈ [shelf], templateFaults template = .ok []) ∧
    place [shelf] (titled "//Sea/") photo dusk = .ok ⟨true, "/", "//Sea/", ".jpg", none, false⟩ ∧
    PutsOnce ObjectStore.pictureStore "Sea/.jpg"
      (save ObjectStore.pictureStore.client [shelf] (titled "//Sea/") photo {} (some dusk)
        (World.scripted dusk) [.answering .null]).sent := by
  have placed : place [shelf] (titled "//Sea/") ⟨[105, 109, 103], none, none⟩
      ((some dusk).getD ((World.scripted dusk).clock [.answering .null])) =
      .ok ⟨true, "/", "//Sea/", ".jpg", none, false⟩ := by
    decide +kernel
  obtain ⟨⟨puts, sent, once, -⟩, -⟩ :=
    save_targets_key (s := ObjectStore.pictureStore) (e := {}) shelf_accepted placed
  refine ⟨shelf_accepted, placed, ?_⟩
  rw [sent]
  exact once

/-- An image of a type without extension. -/
def scan : Image := ⟨[105, 109, 103], some "image/unknown", none⟩

/-- A title that is nothing but a slash makes the bucket itself the target of an image. -/
theorem scan_targets_bucket :
    let run := save ObjectStore.pictureStore.client [shelf] (titled "/") scan {} (some dusk)
      (World.scripted dusk) [.answering .null]
    (∀ template ∈ [shelf], templateFaults template = .ok []) ∧
    place [shelf] (titled "/") scan dusk = .ok ⟨true, "/", "/", [], none, false⟩ ∧
    run.result = .ok ⟨[], "/", "/", true, false⟩ ∧
    ∃ r, run.sent = [r] ∧ r.method = "PUT" ∧ r.address = .text "https://s5lu.com/pictures/" := by
  have placed : place [shelf] (titled "/") scan dusk = .ok ⟨true, "/", "/", [], none, false⟩ := by
    decide +kernel
  have ends : (saveTo ObjectStore.pictureStore.client ⟨true, "/", "/", [], none, false⟩ scan {}
      (World.scripted dusk) [.answering .null]).result = .ok ⟨[], "/", "/", true, false⟩ := by
    with_unfolding_all rfl
  dsimp only
  rw [save_placed placed]
  refine ⟨shelf_accepted, placed, ends, ?_⟩
  obtain ⟨puts, sent, once, told⟩ := saveTo_puts ObjectStore.pictureStore
    ⟨true, "/", "/", [], none, false⟩ scan {} (World.scripted dusk) [.answering .null]
  obtain ⟨r, rfl⟩ : ∃ r, puts = [r] := by
    have filled := List.length_pos_of_ne_nil (told _ ends).2
    exact List.length_eq_one_iff.mp (by have := once.length_le; omega)
  obtain ⟨method, address⟩ := once.puts r List.mem_cons_self
  exact ⟨r, sent, method, address⟩

end Saving

end ImageFiling
