import ImageFiling.Proofs.Signing.Verification
import ImageFiling.Proofs.Storage.ObjectCalls

/-!
# Requests to an object store

A client of an object store sends one request for everything it is asked for, and a verifier with
the same secret accepts it, whatever the key, the headers and the content are.
-/

namespace ImageFiling.ObjectStore

open SignatureV4

def verifier (s : ObjectStore) : Verifier := s.signer.verifier s.digests

def isBucketChar (c : Char) : Bool := c.isAlphanum || c == '.' || c == '-'

theorem isHostChar_of_isBucketChar {c : Char} (plain : isBucketChar c = true) :
    Url.isHostChar c = true := by
  unfold Url.isHostChar
  rw [show (c.isAlphanum || c == '.' || c == '-') = true from plain]
  rfl

theorem isPathChar_of_isBucketChar {c : Char} (plain : isBucketChar c = true) :
    isPathChar c = true := by
  simp only [isBucketChar, Bool.or_eq_true] at plain
  simp only [isPathChar, Percent.isUnreserved, Bool.or_eq_true]
  rcases plain with (alphanum | point) | dash
  · exact .inl (.inl (.inl (.inl (.inl alphanum))))
  · exact .inl (.inl (.inl (.inr point)))
  · exact .inl (.inl (.inl (.inl (.inr dash))))

theorem bodyOf_getD (content : Bytes) : (bodyOf content).getD [] = content := by
  unfold bodyOf
  cases content with
  | nil => rfl
  | cons b r => rfl

/-! ### Paths -/

theorem toNat_of_isPathChar {c : Char} (kept : isPathChar c = true) :
    0x20 < c.toNat ∧ c.toNat < 0x7F := by
  simp only [isPathChar, Bool.or_eq_true, beq_iff_eq] at kept
  rcases kept with unreserved | rfl
  · exact Percent.toNat_of_isUnreserved unreserved
  · decide

theorem isPathChar_of_mem_encode {t : Text} {c : Char}
    (member : c ∈ Percent.encode isPathChar t) : isPathChar c = true ∨ c = '%' := by
  rcases Percent.of_mem_encode member with kept | percent | alphanum
  · exact .inl kept
  · exact .inr percent
  · refine .inl ?_
    unfold isPathChar Percent.isUnreserved
    rw [alphanum]
    rfl

theorem mem_path {t : Text} {c : Char} (member : c ∈ Percent.encode isPathChar t) :
    0x20 < c.toNat ∧ c ≠ '#' ∧ c ≠ '?' := by
  rcases isPathChar_of_mem_encode member with kept | rfl
  · refine ⟨(toNat_of_isPathChar kept).1, ?_, ?_⟩
    · rintro rfl
      exact absurd kept (by decide)
    · rintro rfl
      exact absurd kept (by decide)
  · decide

theorem pathForm_encode (t : Text) :
    Verifier.pathForm (Percent.encode isPathChar t) = Percent.encode isPathChar t :=
  Percent.encodeBytes_decodeBytes_encode (show isPathChar '%' = false by decide) t

theorem encode_path {t : Text} (plain : ∀ c ∈ t, isPathChar c = true) (u : Text) :
    Percent.encode isPathChar (t ++ u) = t ++ Percent.encode isPathChar u := by
  rw [Percent.encode_append]
  have kept : Percent.encode isPathChar t = t := by
    apply Percent.encode_of_safe
    intro c member
    have bounds := toNat_of_isPathChar (plain c member)
    exact ⟨by omega, plain c member⟩
  rw [kept]

/-- The authority of the URLs of objects. -/
def site (s : ObjectStore) : Text := if s.pathStyle then s.host else s.bucket ++ '.' :: s.host

/-- The path to the object with a key, before it is encoded. -/
def place (s : ObjectStore) (key : Text) : Text :=
  if s.pathStyle then '/' :: s.bucket ++ '/' :: key else '/' :: key

theorem site_chars {s : ObjectStore} (host : ∀ c ∈ s.host, Url.isHostChar c = true)
    (bucket : ∀ c ∈ s.bucket, isBucketChar c = true) : ∀ c ∈ s.site, Url.isHostChar c = true := by
  unfold site
  split
  · exact host
  · intro c member
    rcases List.mem_append.mp member with inBucket | later
    · exact isHostChar_of_isBucketChar (bucket c inBucket)
    · rcases List.mem_cons.mp later with rfl | inHost
      · decide
      · exact host c inHost

theorem encode_place {s : ObjectStore} (bucket : ∀ c ∈ s.bucket, isBucketChar c = true) (key : Text) :
    Percent.encode isPathChar (s.place key) =
      if s.pathStyle then '/' :: s.bucket ++ '/' :: Percent.encode isPathChar key
      else '/' :: Percent.encode isPathChar key := by
  unfold place
  split
  · have start : ∀ c ∈ '/' :: s.bucket ++ ['/'], isPathChar c = true :=
      List.forall_mem_append.mpr ⟨List.forall_mem_cons.mpr
        ⟨by decide, fun c inBucket => isPathChar_of_isBucketChar (bucket c inBucket)⟩,
        List.forall_mem_singleton.mpr (by decide)⟩
    have encoded := encode_path start key
    simpa only [List.append_assoc, List.singleton_append] using encoded
  · exact encode_path (List.forall_mem_singleton.mpr (by decide)) key

/-- An encoded path ends neither the path of a URL nor the URL. -/
theorem ofHttps_encoded {path resource : Text}
    (encoded : '/' :: path = Percent.encode isPathChar resource) (host : Text) :
    (∀ c ∈ path, 0x20 < c.toNat ∧ c ≠ '#') ∧
      Url.ofHttps host path = ⟨"https", host, Percent.encode isPathChar resource, [], []⟩ := by
  have chars : ∀ c ∈ '/' :: path, 0x20 < c.toNat ∧ c ≠ '#' ∧ c ≠ '?' := by
    intro c member
    rw [encoded] at member
    exact mem_path member
  have whole : Text.cut '?' ('/' :: path) = ('/' :: path, none) := by
    apply Text.cut_of_not_mem
    intro member
    exact (chars _ member).2.2 rfl
  constructor
  · intro c member
    have char := chars c (List.mem_cons_of_mem _ member)
    exact ⟨char.1, char.2.1⟩
  · rw [Url.ofHttps, whole, encoded]
    rfl

/-- The URL of an object names a plain host, and what follows is encoded as a whole. -/
theorem objectUrl_eq (s : ObjectStore) (key : Text)
    (bucket : ∀ c ∈ s.bucket, isBucketChar c = true) :
    ∃ path, s.objectUrl key = "https://" ++ s.site ++ '/' :: path ∧
      '/' :: path = Percent.encode isPathChar (s.place key) := by
  rw [encode_place bucket, objectUrl, site]
  split
  · refine ⟨s.bucket ++ '/' :: Percent.encode isPathChar key, ?_, rfl⟩
    simp only [List.append_assoc, List.cons_append]
  · refine ⟨Percent.encode isPathChar key, ?_, rfl⟩
    simp only [List.append_assoc, List.cons_append]

/-! ### Headers -/

theorem fileHeaders_names (u : Upload) : ∀ h ∈ fileHeaders u,
    h.1 = "Content-Type".toList ∨ h.1 = "x-amz-meta-description".toList := by
  intro h member
  unfold fileHeaders at member
  rcases List.mem_cons.mp member with rfl | described
  · exact .inl rfl
  · split at described
    · rw [List.mem_singleton.mp described]
      exact .inr rfl
    · cases described

theorem fileHeaders_proper (u : Upload) : Proper (fileHeaders u) := by
  have type : ProperName "content-type" :=
    ⟨by decide, by decide, by decide, by decide⟩
  have description : ProperName "x-amz-meta-description" :=
    ⟨by decide, by decide, by decide, by decide⟩
  intro h member
  obtain ⟨given, inside, name⟩ := name_of_canonicalHeaders member
  rw [name]
  rcases fileHeaders_names u given inside with isType | isDescription
  · rw [isType]
    exact type
  · rw [isDescription]
    exact description

theorem no_headers_proper : Proper [] := by
  intro h member
  cases member

/-! ### Acceptance -/

section

variable {σ : Type} {s : ObjectStore} {w : World σ} {t : σ}

theorem send_sent {method url : Text} {headers signed : Entries Text} {content : Bytes}
    (ready : SignatureV4.sign s.digests s.signer method url headers content
      { w.clock t with utcOffset := .ok 0 } = .ok signed) :
    (s.send method url headers content w t).sent =
      [⟨method, .text url, .body signed (bodyOf content)⟩] :=
  (send_ran ready).sent_eq

theorem upload_sent (u : Upload) :
    (s.upload u w t).sent = (s.send "PUT" (s.objectUrl (objectKey u.directory u.fileName))
      (fileHeaders u) u.content w t).sent := by
  unfold upload
  simp only [Session.note_bind]
  rw [Session.sent_bind_silent]
  intro reply v
  cases ok : reply.isOk with
  | true => rfl
  | false => rfl

theorem listBuckets_sent : (s.listBuckets w t).sent = (s.send "GET" s.listUrl [] [] w t).sent := by
  unfold listBuckets
  rw [Session.sent_bind_silent]
  intro reply v
  cases ok : reply.isOk with
  | true => cases read : Xml.parse? reply.text <;> rfl
  | false => rfl

theorem checkCredentials_sent :
    (s.checkCredentials w t).sent = (s.send "GET" s.listUrl [] [] w t).sent := by
  unfold checkCredentials
  rw [Session.sent_bind_silent]
  · rfl
  · intro result v
    cases result with
    | error f => rfl
    | ok reply =>
      dsimp only
      cases ok : reply.isOk <;> rfl

variable (host : ∀ c ∈ s.host, Url.isHostChar c = true) (valid : (w.clock t).Valid)
  (year : 1000 ≤ (w.clock t).date.year ∧ (w.clock t).date.year ≤ 9999)

include host valid year

theorem put_accepted (bucket : ∀ c ∈ s.bucket, isBucketChar c = true) (key : Text) (u : Upload) :
    ∃ r, (s.send "PUT" (s.objectUrl key) (fileHeaders u) u.content w t).sent = [r] ∧
      s.verifier.accepts r = true := by
  obtain ⟨path, url, encoded⟩ := objectUrl_eq s key bucket
  obtain ⟨visible, cut⟩ := ofHttps_encoded encoded s.site
  have pathForm : Verifier.pathForm (Url.ofHttps s.site path).path =
      (Url.ofHttps s.site path).path := by
    rw [cut]
    exact pathForm_encode (s.place key)
  have queryForm : Verifier.queryForm (Url.ofHttps s.site path).query =
      Query.canonical (Url.ofHttps s.site path).query := by
    rw [cut]
    rfl
  obtain ⟨signed, ready, accepted⟩ := accepts_signed (bodyOf_getD u.content)
    (show Text.upper "PUT" = "PUT".toList by decide) (fileHeaders_proper u)
    (site_chars host bucket) visible pathForm queryForm valid year
  rw [← url] at ready accepted
  exact ⟨_, send_sent ready, accepted⟩

theorem list_accepted :
    ∃ r, (s.send "GET" s.listUrl [] [] w t).sent = [r] ∧ s.verifier.accepts r = true := by
  have chars : ("?x-id=ListBuckets".toList.all fun c => 0x20 < c.toNat ∧ c ≠ '#') = true := by decide
  have visible : ∀ c ∈ "?x-id=ListBuckets".toList, 0x20 < c.toNat ∧ c ≠ '#' := fun c member =>
    of_decide_eq_true (List.all_eq_true.mp chars c member)
  have pathForm : Verifier.pathForm (Url.ofHttps s.host "?x-id=ListBuckets").path =
      (Url.ofHttps s.host "?x-id=ListBuckets").path := by
    change Verifier.pathForm "/" = "/".toList
    decide
  have queryForm : Verifier.queryForm (Url.ofHttps s.host "?x-id=ListBuckets").query =
      Query.canonical (Url.ofHttps s.host "?x-id=ListBuckets").query := rfl
  obtain ⟨signed, ready, accepted⟩ := accepts_signed (bodyOf_getD [])
    (show Text.upper "GET" = "GET".toList by decide) no_headers_proper host visible pathForm
    queryForm valid year
  exact ⟨_, send_sent ready, accepted⟩

/-- Storing a file, listing the buckets and checking the credentials each send one request, and the
verifier accepts it. -/
theorem requests_accepted (bucket : ∀ c ∈ s.bucket, isBucketChar c = true) :
    (∀ u, ∃ r, (s.upload u w t).sent = [r] ∧ s.verifier.accepts r = true) ∧
      (∃ r, (s.listBuckets w t).sent = [r] ∧ s.verifier.accepts r = true) ∧
      ∃ r, (s.checkCredentials w t).sent = [r] ∧ s.verifier.accepts r = true := by
  refine ⟨fun u => ?_, ?_, ?_⟩
  · rw [upload_sent]
    exact put_accepted host valid year bucket (objectKey u.directory u.fileName) u
  · rw [listBuckets_sent]
    exact list_accepted host valid year
  · rw [checkCredentials_sent]
    exact list_accepted host valid year

end

def pictureStore : ObjectStore := ofAccess ⟨"key", "secret", "pictures"⟩

/-- A world without connection, at noon of a leap day. -/
def noon : World Unit where
  serve _ t := (.refused "no route", t)
  clock _ := ⟨⟨2024, 2, 29⟩, 12, 0, 0, 0, .ok 0⟩

theorem noon_valid : (noon.clock ()).Valid :=
  ⟨by decide, by decide, by decide, by decide, by decide⟩

theorem pictureStore_requests_accepted :
    (∀ u, ∃ r, (pictureStore.upload u noon ()).sent = [r] ∧
        pictureStore.verifier.accepts r = true) ∧
      (∃ r, (pictureStore.listBuckets noon ()).sent = [r] ∧
        pictureStore.verifier.accepts r = true) ∧
      ∃ r, (pictureStore.checkCredentials noon ()).sent = [r] ∧
        pictureStore.verifier.accepts r = true := by
  exact requests_accepted (List.all_eq_true.mp rfl) noon_valid (by decide) (List.all_eq_true.mp rfl)

end ImageFiling.ObjectStore
