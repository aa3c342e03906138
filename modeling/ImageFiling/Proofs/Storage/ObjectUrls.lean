import ImageFiling.Proofs.Storage.SignedRequests
import ImageFiling.Proofs.Text.EncodedPieces

/-!
# URLs of objects

A file is sent to a URL from which the key that the upload answers can be read back, whatever
characters stand in it (`upload_locates_key`).
-/

namespace ImageFiling.ObjectStore

open SignatureV4 Session

/-- The parts of a URL that leads to the object with a key. The path is read as a whole and segment by
segment. -/
structure Locates (s : ObjectStore) (key : Text) (parts : Url) : Prop where
  scheme : parts.scheme = "https"
  authority : parts.authority = s.site
  path : Percent.decode parts.path = s.place key
  segments : (Text.pieces '/' parts.path).map Percent.decode = Text.pieces '/' (s.place key)
  query : parts.query = []
  fragment : parts.fragment = []

variable {σ : Type} {s : ObjectStore} {w : World σ} {t : σ}

theorem place_injective (s : ObjectStore) : Function.Injective s.place := by
  intro key key' same
  unfold place at same
  split at same
  · exact (List.cons.inj (List.append_cancel_left same)).2
  · exact (List.cons.inj same).2

theorem decode_encode_path (t : Text) : Percent.decode (Percent.encode isPathChar t) = t :=
  Percent.decode_encode (by decide) t

/-- The segments of an encoded path are the encoded segments. -/
theorem segments_encode (t : Text) :
    (Text.pieces '/' (Percent.encode isPathChar t)).map Percent.decode = Text.pieces '/' t := by
  rw [Percent.pieces_encode (by decide) (by decide) (by decide) (by decide), List.map_map]
  exact (List.map_congr_left fun piece _ => decode_encode_path piece).trans (List.map_id _)

/-- A request is sent unless it cannot be signed. -/
theorem send_sent_or_failed (method url : Text) (headers : Entries Text) (content : Bytes) :
    (∃ signed, (s.send method url headers content w t).sent =
      [⟨method, .text url, .body signed (bodyOf content)⟩]) ∨
    (s.send method url headers content w t).sent = [] ∧
      ∃ e, (s.send method url headers content w t).result = .error e := by
  cases ready : SignatureV4.sign s.digests s.signer method url headers content
      { w.clock t with utcOffset := .ok 0 } with
  | ok signed => exact .inl ⟨signed, send_sent ready⟩
  | error f =>
    rw [send_of_unsigned ready]
    exact .inr ⟨rfl, _, rfl⟩

theorem upload_result {u : Upload} {code : Json} (stored : (s.upload u w t).result = .ok code) :
    code = .text (objectKey u.directory u.fileName) ∧
      ∃ reply, (s.send "PUT" (s.objectUrl (objectKey u.directory u.fileName)) (fileHeaders u)
        u.content w t).result = .ok reply := by
  unfold upload at stored
  rw [Session.note_bind] at stored
  obtain ⟨reply, sent, read⟩ := bind_result_ok stored
  refine ⟨?_, reply, sent⟩
  cases accepted : reply.isOk with
  | true =>
    rw [accepted] at read
    exact (Except.ok.inj read).symm
  | false =>
    rw [accepted] at read
    cases read

section

variable (host : ∀ c ∈ s.host, Url.isHostChar c = true)
  (bucket : ∀ c ∈ s.bucket, isBucketChar c = true)

include host bucket

theorem locates_objectUrl (key : Text) :
    ∃ parts, Url.split (s.objectUrl key) = .ok parts ∧ s.Locates key parts := by
  obtain ⟨path, url, encoded⟩ := objectUrl_eq s key bucket
  obtain ⟨visible, cut⟩ := ofHttps_encoded encoded s.site
  have accepted := Url.split_https (site_chars host bucket) visible
  rw [← url, cut] at accepted
  exact ⟨_, accepted, rfl, rfl, decode_encode_path _, segments_encode _, rfl, rfl⟩

theorem put_signed (key : Text) (headers : Entries Text) (content : Bytes)
    (valid : (w.clock t).Valid) :
    ∃ signed, sign s.digests s.signer "PUT" (s.objectUrl key) headers content
      { w.clock t with utcOffset := .ok 0 } = .ok signed := by
  obtain ⟨path, url, encoded⟩ := objectUrl_eq s key bucket
  obtain ⟨visible, -⟩ := ofHttps_encoded encoded s.site
  unfold sign
  rw [url, prepare_https (site_chars host bucket) visible valid]
  exact ⟨_, rfl⟩

/-- Whatever is sent for a file goes to a URL that leads to the object with its key. -/
theorem upload_leads (u : Upload) : ∀ r ∈ (s.upload u w t).sent, r.method = "PUT" ∧
    ∃ url parts, r.address = .text url ∧ Url.split url = .ok parts ∧
      s.Locates (objectKey u.directory u.fileName) parts := by
  obtain ⟨parts, cut, located⟩ := locates_objectUrl host bucket (objectKey u.directory u.fileName)
  intro r member
  rw [upload_sent] at member
  rcases send_sent_or_failed "PUT" (s.objectUrl (objectKey u.directory u.fileName)) (fileHeaders u)
    u.content with ⟨signed, sent⟩ | ⟨nothing, -⟩
  · rw [sent, List.mem_singleton] at member
    subst member
    exact ⟨rfl, _, parts, rfl, cut, located⟩
  · rw [nothing] at member
    cases member

theorem upload_sent_of_valid (u : Upload) (valid : (w.clock t).Valid) :
    ∃ r, (s.upload u w t).sent = [r] := by
  obtain ⟨signed, ready⟩ := put_signed (w := w) (t := t) host bucket
    (objectKey u.directory u.fileName) (fileHeaders u) u.content valid
  rw [upload_sent]
  exact ⟨_, send_sent ready⟩

/-- Whatever is sent for a file goes to a URL that leads to the object with its key. If the file is
stored, one request was sent and the key is answered. Different keys have different URLs. One request is
sent whenever the clock shows a moment of the calendar. -/
theorem upload_locates_key (u : Upload) :
    (∀ r ∈ (s.upload u w t).sent, r.method = "PUT" ∧ ∃ url parts, r.address = .text url ∧
      Url.split url = .ok parts ∧ s.Locates (objectKey u.directory u.fileName) parts) ∧
    (∀ code, (s.upload u w t).result = .ok code →
      code = .text (objectKey u.directory u.fileName) ∧ ∃ r, (s.upload u w t).sent = [r]) ∧
    (∀ (u' : Upload) (w' : World σ) (t' : σ), ∀ r ∈ (s.upload u w t).sent,
      ∀ r' ∈ (s.upload u' w' t').sent, r.address = r'.address →
        objectKey u.directory u.fileName = objectKey u'.directory u'.fileName) ∧
    ((w.clock t).Valid → ∃ r, (s.upload u w t).sent = [r]) := by
  refine ⟨upload_leads host bucket u, ?_, ?_, upload_sent_of_valid host bucket u⟩
  · intro code stored
    obtain ⟨answer, reply, put⟩ := upload_result stored
    refine ⟨answer, ?_⟩
    rw [upload_sent]
    rcases send_sent_or_failed "PUT" (s.objectUrl (objectKey u.directory u.fileName)) (fileHeaders u)
      u.content with ⟨signed, sent⟩ | ⟨-, e, failed⟩
    · exact ⟨_, sent⟩
    · cases put.symm.trans failed
  · intro u' w' t' r member r' member' same
    obtain ⟨-, url, parts, address, cut, located⟩ := upload_leads host bucket u r member
    obtain ⟨-, url', parts', address', cut', located'⟩ := upload_leads host bucket u' r' member'
    obtain rfl : url = url' := by
      rw [address, address'] at same
      exact Json.text.inj same
    obtain rfl : parts = parts' := Except.ok.inj (cut.symm.trans cut')
    exact place_injective s (located.path.symm.trans located'.path)

end

/-- A file whose place is full of characters that mean something in URLs. -/
def offer : Upload := ⟨"/Räume//50% off?", "#1+1.png", [], none, none⟩

theorem pictureStore_offer : ∃ r url parts, (pictureStore.upload offer noon ()).sent = [r] ∧
    r.method = "PUT" ∧ r.address = .text url ∧ Url.split url = .ok parts ∧
    parts.authority = "s5lu.com" ∧ Percent.decode parts.path = "/pictures/Räume/50% off?/#1+1.png" ∧
    parts.query = [] ∧ parts.fragment = [] := by
  obtain ⟨leads, -, -, sends⟩ := upload_locates_key (s := pictureStore) (w := noon) (t := ())
    (List.all_eq_true.mp rfl) (List.all_eq_true.mp rfl) offer
  obtain ⟨r, sent⟩ := sends noon_valid
  have member : r ∈ (pictureStore.upload offer noon ()).sent := by
    rw [sent]
    exact List.mem_singleton_self r
  obtain ⟨method, url, parts, address, cut, located⟩ := leads r member
  have key : objectKey offer.directory offer.fileName = "Räume/50% off?/#1+1.png".toList := by decide
  have path : Percent.decode parts.path = "/pictures/Räume/50% off?/#1+1.png".toList := by
    rw [located.path, key]
    rfl
  exact ⟨r, url, parts, sent, method, address, cut, located.authority, path, located.query,
    located.fragment⟩

end ImageFiling.ObjectStore
