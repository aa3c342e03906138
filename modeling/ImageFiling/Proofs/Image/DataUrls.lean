import ImageFiling.Image.Source
import ImageFiling.Proofs.Text.Base64
import ImageFiling.Proofs.Text.Pieces
import ImageFiling.Proofs.Text.Variants
import ImageFiling.Proofs.Url.Query

/-!
# Images in data URLs

An image that stands in a data URL, in base64 or percent-encoded, is loaded as the bytes that it was
encoded from, and nothing is asked of the world for it (`image_of_dataUrl`).
-/

namespace ImageFiling.DataUrl

/-- The media type of an image, in ASCII. -/
def IsImageType (mime : Text) : Prop :=
  ∃ kind subtype, mime = kind ++ subtype ∧ kind.map Char.toLower = "image/" ∧ subtype ≠ [] ∧
    ∀ c ∈ subtype, c.toNat < 128 ∧ c ≠ ';' ∧ c ≠ ','

/-- None, or parameters with a semicolon before each. -/
def AreParameters (t : Text) : Prop := ',' ∉ t ∧ ∀ c ∈ t.head?, c = ';'

/-- A text in which every byte is escaped, or is the character itself if that is unreserved. -/
inductive IsEscaped : Bytes → Text → Prop where
  | nil : IsEscaped [] []
  | plain {c : Char} {bytes : Bytes} {t : Text} (unreserved : Percent.isUnreserved c = true)
    (rest : IsEscaped bytes t) : IsEscaped (UInt8.ofNat c.toNat :: bytes) (c :: t)
  | escape {b : UInt8} {e : Text} {bytes : Bytes} {t : Text} (escape : Query.IsEscape b e)
    (rest : IsEscaped bytes t) : IsEscaped (b :: bytes) (e ++ t)

/-- Whether a text has `;base64` in it, in some case of its letters. -/
def NamesBase64 (t : Text) : Prop :=
  ∃ before name after, t = before ++ name ++ after ∧ name.map Char.toLower = ";base64"

/-- Bytes as they stand in a data URL: the parameters, of which the last says that the data is base64,
or the data is escaped. Characters that base64 does not have may stand anywhere in it. -/
inductive Holds (bytes : Bytes) : Text → Text → Prop where
  | base64 {before name data : Text} (named : name.map Char.toLower = ";base64")
    (ascii : ∀ c ∈ data, c.toNat < 128)
    (meant : data.filter Base64.isMeant = Base64.encode bytes) : Holds bytes (before ++ name) data
  | escaped {parameters data : Text} (unnamed : ¬ NamesBase64 parameters)
    (escaped : IsEscaped bytes data) : Holds bytes parameters data

/-! ### The content -/

theorem isBase64_iff {t : Text} : isBase64 t = true ↔ NamesBase64 t := by
  have each : ∀ x ∈ (";base64" : Text), x.toNat < 128 ∧ 0 < x.toNat ∧ x ≠ 'i' ∧ x ≠ 'k' := by simp
  refine Text.includes_lower_iff ?_ (by decide)
  intro x member
  obtain ⟨ascii, positive, i, k⟩ := each x member
  exact Text.settled_of_ne ascii positive i k

theorem decodeBytes_of_isEscaped {bytes : Bytes} {t : Text} (escaped : IsEscaped bytes t) :
    Percent.decodeBytes t = bytes := by
  induction escaped with
  | nil => rfl
  | @plain c bytes t unreserved _ ih =>
    have percent : c ≠ '%' := by
      rintro rfl
      exact absurd unreserved (by decide)
    have bounds := Percent.toNat_of_isUnreserved unreserved
    have ascii : c.toNat < 0x80 := by omega
    rw [Percent.decodeBytes_cons_ne percent, Percent.encodeChar_ascii ascii, ih]
    rfl
  | @escape b e bytes t escape _ ih =>
    have one := Query.decodeBytes_escapes (.cons escape .nil) t
    rw [List.flatten_singleton] at one
    rw [one, ih]
    rfl

theorem content_of_holds {bytes : Bytes} {mime parameters data : Text}
    (holds : Holds bytes parameters data) :
    (Parts.mk mime parameters data).content = .ok bytes := by
  unfold Parts.content
  cases holds with
  | @base64 before name data named ascii meant =>
    have base64 : isBase64 (before ++ name) = true :=
      isBase64_iff.mpr ⟨before, name, [], (List.append_nil _).symm, named⟩
    rw [if_pos base64, Base64.decode_of_filter ascii meant]
    rfl
  | escaped unnamed escaped =>
    rw [if_neg (mt isBase64_iff.mp unnamed), decodeBytes_of_isEscaped escaped]

/-! ### The parts -/

theorem afterLetters?_append {letters word : Text} (lowered : word.map Char.toLower = letters)
    (rest : Text) : Text.afterLetters? letters (word ++ rest) = some rest := by
  subst lowered
  induction word with
  | nil => rfl
  | cons c word ih =>
    have letter : Text.isLetter c.toLower c = true := by simp [Text.isLetter]
    rw [List.map_cons, List.cons_append, Text.afterLetters?, if_pos letter, ih]

theorem exists_head (parameters data : Text) (semicolon : ∀ c ∈ parameters.head?, c = ';') :
    ∃ d rest, parameters ++ ',' :: data = d :: rest ∧ (d = ';' ∨ d = ',') := by
  cases parameters with
  | nil => exact ⟨',', data, rfl, .inr rfl⟩
  | cons d parameters => exact ⟨d, parameters ++ ',' :: data, rfl, .inl (semicolon d rfl)⟩

theorem takeWhile_dropWhile_append {p : Char → Bool} {word : Text} (inside : ∀ c ∈ word, p c = true)
    {d : Char} (outside : p d = false) (rest : Text) :
    (word ++ d :: rest).takeWhile p = word ∧ (word ++ d :: rest).dropWhile p = d :: rest := by
  have stops : ¬ p d = true := Bool.eq_false_iff.mp outside
  rw [List.takeWhile_append_of_pos inside, List.dropWhile_append_of_pos inside,
    List.takeWhile_cons_of_neg stops, List.dropWhile_cons_of_neg stops, List.append_nil]
  exact ⟨rfl, rfl⟩

theorem parts?_append {mime parameters : Text} (type : IsImageType mime)
    (listed : AreParameters parameters) (data : Text) :
    parts? ("data:" ++ mime ++ parameters ++ ',' :: data) = some ⟨mime, parameters, data⟩ := by
  obtain ⟨kind, subtype, rfl, lowered, full, chars⟩ := type
  obtain ⟨commaFree, semicolon⟩ := listed
  obtain ⟨d, rest, head, ends⟩ := exists_head parameters data semicolon
  have inside : ∀ c ∈ subtype, (c != ';' && c != ',') = true := by
    intro c member
    simpa using (chars c member).2
  have outside : (d != ';' && d != ',') = false := by
    rcases ends with rfl | rfl <;> decide
  have shape : "data:" ++ (kind ++ subtype) ++ parameters ++ ',' :: data =
      ("data:" ++ kind) ++ (subtype ++ (parameters ++ ',' :: data)) := by
    simp only [List.append_assoc]
  have start : afterStart? ("data:" ++ (kind ++ subtype) ++ parameters ++ ',' :: data) =
      some (subtype ++ (parameters ++ ',' :: data)) := by
    rw [shape]
    refine afterLetters?_append ?_ _
    rw [List.map_append, lowered]
    decide
  obtain ⟨taken, left⟩ := takeWhile_dropWhile_append inside outside rest
  rw [← head] at taken left
  have size : kind.length = 6 := by
    rw [← List.length_map Char.toLower, lowered]
    rfl
  have written : (("data:" ++ (kind ++ subtype) ++ parameters ++ ',' :: data).drop 5).take
      (6 + subtype.length) = kind ++ subtype := by
    rw [← size, ← List.length_append, List.append_assoc, List.append_assoc]
    exact List.take_left
  simp only [parts?, start, Option.bind_eq_bind, Option.bind_some, taken, left, written,
    List.isEmpty_iff, if_neg full, Text.cut_append_cons commaFree]

theorem toNat_of_isImageType {mime : Text} (type : IsImageType mime) : ∀ c ∈ mime, c.toNat < 128 := by
  obtain ⟨kind, subtype, rfl, lowered, -, chars⟩ := type
  intro c member
  rcases List.mem_append.mp member with inKind | inSubtype
  · by_contra outside
    have letter : c.toLower ∈ kind.map Char.toLower := List.mem_map_of_mem inKind
    rw [lowered, Text.toLower_of_le (Nat.le_of_not_lt outside)] at letter
    have each : ∀ d ∈ ("image/" : Text), d.toNat < 128 := by simp
    exact outside (each c letter)
  · exact (chars c inSubtype).1

/-! ### The image -/

/-- An image in a data URL is loaded as its bytes and its media type in lower case. Nothing is asked
of the world, and nothing is noted. -/
theorem image_of_dataUrl {bytes : Bytes} {mime parameters data : Text} (type : IsImageType mime)
    (listed : AreParameters parameters) (holds : Holds bytes parameters data) {σ : Type}
    (files : Files) (page : Option Text) (w : World σ) (s : σ) :
    Source.image files ("data:" ++ mime ++ parameters ++ ',' :: data) page w s =
      ⟨.ok ⟨bytes, some (mime.map Char.toLower), none⟩, s, [], []⟩ := by
  have parts := parts?_append type listed data
  have start : (afterStart? ("data:" ++ mime ++ parameters ++ ',' :: data)).isSome = true := by
    unfold parts? at parts
    obtain ⟨rest, found, -⟩ := Option.bind_eq_some_iff.mp parts
    rw [found]
    rfl
  have image : image ("data:" ++ mime ++ parameters ++ ',' :: data) =
      .ok ⟨bytes, some (mime.map Char.toLower), none⟩ := by
    unfold DataUrl.image
    rw [parts]
    simp only [content_of_holds holds, Text.lower_ascii (toNat_of_isImageType type)]
    rfl
  rw [Source.image, if_pos start, image]
  rfl

/-- The first bytes of a picture with a line break in their base64, for a page of its own. -/
theorem picture_in_base64 :
    let image : Text := "data:image/PNG;name=oak;Base64,iV\nBORw=="
    let silent : World Unit :=
      ⟨fun _ s => (.refused "no reply", s), fun _ => ⟨⟨2025, 1, 2⟩, 3, 4, 5, 0, .ok 0⟩⟩
    IsImageType "image/PNG" ∧ AreParameters ";name=oak;Base64" ∧
      Holds [0x89, 0x50, 0x4E, 0x47] ";name=oak;Base64" "iV\nBORw==" ∧
      (Source.image ⟨[]⟩ image (some "https://example.org/") silent ()).result =
        .ok ⟨[0x89, 0x50, 0x4E, 0x47], some "image/png", none⟩ := by
  intro image silent
  have type : IsImageType "image/PNG" :=
    ⟨"image/", "PNG", by decide, by decide, by decide, by simp⟩
  have listed : AreParameters ";name=oak;Base64" := ⟨by decide, by simp⟩
  have holds : Holds [0x89, 0x50, 0x4E, 0x47] (";name=oak" ++ ";Base64") "iV\nBORw==" :=
    .base64 (by decide) (by simp) (by decide)
  have loaded := image_of_dataUrl type listed holds ⟨[]⟩ (some "https://example.org/") silent ()
  exact ⟨type, listed, holds, congrArg Outcome.result loaded⟩

end ImageFiling.DataUrl
