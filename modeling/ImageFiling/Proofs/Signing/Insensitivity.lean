import ImageFiling.Proofs.Signing.CanonicalRequest
import ImageFiling.Proofs.Text.Order
import ImageFiling.Proofs.Time.Instant
import ImageFiling.Proofs.Url.CanonicalQuery

/-!
# What a signature does not depend on

A request is signed in its canonical form and at an instant. Two ways to write the request that have
one canonical form, with clocks that show the instant in two zones, are signed alike
(`sign_insensitive`).
-/

namespace ImageFiling.SignatureV4

/-- Two ways to write a header: the names differ in letter case, the values in the blanks around and
between their words. -/
structure Alike (h h' : Text × Text) : Prop where
  ascii : ∀ c ∈ h.1, c.toNat < 128
  ascii' : ∀ c ∈ h'.1, c.toNat < 128
  name : h.1.map Char.toLower = h'.1.map Char.toLower
  value : ∃ ws, Text.Spaced ws h.2 ∧ Text.Spaced ws h'.2

/-- The same headers in some order, each written in one way or the other. -/
def SameHeaders (headers headers' : Headers) : Prop :=
  ∃ reordered, headers.Perm reordered ∧ List.Forall₂ Alike reordered headers'

/-- The name under which a header is signed. -/
def signedName (h : Text × Text) : Text := Text.strip (Text.lower h.1)

def signedValue (h : Text × Text) : Text := Text.joined " " (Text.words h.2)

/-! ### Headers -/

theorem Alike.signedName_eq {h h' : Text × Text} (alike : Alike h h') :
    signedName h = signedName h' := by
  unfold signedName
  rw [Text.lower_ascii alike.ascii, Text.lower_ascii alike.ascii', alike.name]

theorem Alike.signedValue_eq {h h' : Text × Text} (alike : Alike h h') :
    signedValue h = signedValue h' := by
  obtain ⟨ws, spaced, spaced'⟩ := alike.value
  unfold signedValue
  rw [Text.words_of_spaced spaced, Text.words_of_spaced spaced']

theorem canonicalHeaders_of_distinct {headers : Headers}
    (distinct : (headers.map signedName).Nodup) :
    canonicalHeaders headers = headers.map fun h => (signedName h, signedValue h) := by
  have names : (([] ++ headers.map fun h => (signedName h, signedValue h)).map Prod.fst).Nodup := by
    rw [List.nil_append, List.map_map]
    exact distinct
  exact Entries.putAll_of_distinct names

theorem canonicalHeaders_nodup (headers : Headers) :
    ((canonicalHeaders headers).map Prod.fst).Nodup :=
  Entries.nodup_putAll [] _ List.nodup_nil

theorem SameHeaders.canonicalHeaders_perm {headers headers' : Headers}
    (same : SameHeaders headers headers') (distinct : (headers.map signedName).Nodup) :
    (canonicalHeaders headers).Perm (canonicalHeaders headers') := by
  obtain ⟨reordered, perm, alike⟩ := same
  have written {α : Type} {f : Text × Text → α} (respects : ∀ h h', Alike h h' → f h = f h') :
      (headers.map f).Perm (headers'.map f) := by
    have pointwise : reordered.map f = headers'.map f := by
      rw [← List.forall₂_eq_eq_eq, List.forall₂_map_left_iff, List.forall₂_map_right_iff]
      exact alike.imp respects
    rw [← pointwise]
    exact perm.map f
  have names := written (f := signedName) fun _ _ a => a.signedName_eq
  rw [canonicalHeaders_of_distinct distinct,
    canonicalHeaders_of_distinct (names.nodup_iff.mp distinct)]
  refine written fun h h' a => ?_
  rw [a.signedName_eq, a.signedValue_eq]

theorem stamped_nodup (host stamp : Text) (headers : Headers) :
    ((stamped host stamp headers).map Prod.fst).Nodup :=
  Entries.nodup_put (Entries.nodup_put (canonicalHeaders_nodup headers) _ _) _ _

theorem signedHeaders_nodup (d : Digests) (host stamp : Text) (headers : Headers)
    (payload : Bytes) : ((signedHeaders d host stamp headers payload).map Prod.fst).Nodup := by
  cases given : Entries.get? (stamped host stamp headers) digestHeader with
  | some digest =>
    rw [signedHeaders_of_given given]
    exact stamped_nodup host stamp headers
  | none =>
    rw [signedHeaders_of_missing given]
    exact Entries.nodup_put (stamped_nodup host stamp headers) _ _

theorem signedHeaders_perm {headers headers' : Headers}
    (perm : (canonicalHeaders headers).Perm (canonicalHeaders headers')) (d : Digests)
    (host stamp : Text) (payload : Bytes) :
    (signedHeaders d host stamp headers payload).Perm
      (signedHeaders d host stamp headers' payload) := by
  have nodup := canonicalHeaders_nodup headers
  have dated : (stamped host stamp headers).Perm (stamped host stamp headers') :=
    Entries.put_perm (Entries.nodup_put nodup _ _) (Entries.put_perm nodup perm _ _) _ _
  have found := Entries.get?_of_perm (stamped_nodup host stamp headers) dated digestHeader
  cases given : Entries.get? (stamped host stamp headers') digestHeader with
  | some digest =>
    rw [signedHeaders_of_given given, signedHeaders_of_given (found.trans given)]
    exact dated
  | none =>
    rw [signedHeaders_of_missing given, signedHeaders_of_missing (found.trans given)]
    exact Entries.put_perm (stamped_nodup host stamp headers) dated _ _

/-! ### Requests -/

theorem eq_of_name_eq {signed : Headers} (distinct : (signed.map Prod.fst).Nodup) {a b : Text × Text}
    (left : a ∈ signed) (right : b ∈ signed) (same : a.1 = b.1) : a = b := by
  have first : Entries.get? signed a.1 = some a.2 := Entries.get?_of_mem distinct left
  have second : Entries.get? signed b.1 = some b.2 := Entries.get?_of_mem distinct right
  rw [same, second] at first
  exact Prod.ext same (Option.some.inj first).symm

theorem canonicalRequest_eq_of_perm {signed signed' : Headers}
    (distinct : (signed.map Prod.fst).Nodup) (perm : signed.Perm signed') {url url' : Url}
    (path : url.path = url'.path)
    (pieces : (Text.pieces '&' url.query).Perm (Text.pieces '&' url'.query)) (method : Text) :
    canonicalRequest method url signed = canonicalRequest method url' signed' := by
  have sorted : signed.mergeSort (fun a b => Text.le a.1 b.1) =
      signed'.mergeSort (fun a b => Text.le a.1 b.1) := by
    apply Text.mergeSort_eq_of_perm (fun a b c => Text.le_trans a.1 b.1 c.1)
      (fun a b => Text.le_total a.1 b.1) _ perm
    intro a left b right first second
    exact eq_of_name_eq distinct left right (Text.le_antisymm first second)
  have digest := Entries.get?_of_perm distinct perm digestHeader
  unfold canonicalRequest
  rw [path, Query.canonical_eq_of_perm pieces, sorted, digest]

/-- What is sent for a request that is signed when a clock in UTC has this reading. -/
def signedAt (d : Digests) (s : Signer) (method : Text) (parts : Url) (headers : Headers)
    (payload : Bytes) (utc : Moment) : Headers :=
  let signed := signedHeaders d parts.authority (timeStamp utc) headers payload
  Entries.put signed "authorization" (authorization d s utc (canonicalRequest method parts signed))

theorem sign_eq_signedAt {url : Text} {parts : Url} {now utc : Moment}
    (cut : Url.split url = .ok parts) (time : now.toUtc = .ok utc) (d : Digests) (s : Signer)
    (method : Text) (headers : Headers) (payload : Bytes) :
    sign d s method url headers payload now =
      .ok (signedAt d s method parts headers payload utc) := by
  simp only [sign, prepare, time, cut]
  rfl

theorem signedAt_nodup (d : Digests) (s : Signer) (method : Text) (parts : Url) (headers : Headers)
    (payload : Bytes) (utc : Moment) :
    ((signedAt d s method parts headers payload utc).map Prod.fst).Nodup :=
  Entries.nodup_put (signedHeaders_nodup d _ _ headers payload) _ _

theorem signedAt_perm {parts parts' : Url} {headers headers' : Headers}
    (authority : parts.authority = parts'.authority) (path : parts.path = parts'.path)
    (pieces : (Text.pieces '&' parts.query).Perm (Text.pieces '&' parts'.query))
    (perm : (canonicalHeaders headers).Perm (canonicalHeaders headers')) (d : Digests) (s : Signer)
    (method : Text) (payload : Bytes) (utc : Moment) :
    (signedAt d s method parts headers payload utc).Perm
      (signedAt d s method parts' headers' payload utc) := by
  have signed := signedHeaders_perm perm d parts.authority (timeStamp utc) payload
  have nodup := signedHeaders_nodup d parts.authority (timeStamp utc) headers payload
  have request := canonicalRequest_eq_of_perm nodup signed path pieces method
  unfold signedAt
  dsimp only
  rw [← authority, ← request]
  exact Entries.put_perm nodup signed _ _

/-- Two writings of a request have one signature: the order of the headers, the case of their names
and the blanks of their values, the order of the pieces of the query and the zone in which the time
is told do not matter, for every instant of the calendar. -/
theorem sign_insensitive {d : Digests} {s : Signer} {method url url' : Text} {parts parts' : Url}
    {headers headers' : Headers} {payload : Bytes} {now now' : Moment} {instant : Int} {day : Date}
    (cut : Url.split url = .ok parts) (cut' : Url.split url' = .ok parts')
    (authority : parts.authority = parts'.authority) (path : parts.path = parts'.path)
    (pieces : (Text.pieces '&' parts.query).Perm (Text.pieces '&' parts'.query))
    (same : SameHeaders headers headers')
    (distinct : (headers.map fun h => Text.strip (Text.lower h.1)).Nodup)
    (shown : now.Shows instant) (shown' : now'.Shows instant)
    (isDay : day.IsDay) (onDay : (day.number : Int) = instant.fdiv 86400) :
    ∃ signed signed', sign d s method url headers payload now = .ok signed ∧
      sign d s method url' headers' payload now' = .ok signed' ∧
      signed.Perm signed' ∧ (signed.map Prod.fst).Nodup ∧
      ∀ name, Entries.get? signed name = Entries.get? signed' name := by
  have utc := shown.toUtc isDay onDay
  have utc' := shown'.toUtc isDay onDay
  have perm := signedAt_perm authority path pieces (same.canonicalHeaders_perm distinct) d s method
    payload (Moment.utcReading day instant now.microsecond)
  have nodup := signedAt_nodup d s method parts headers payload
    (Moment.utcReading day instant now.microsecond)
  -- Fractions of a second are not signed: with the other clock's the same is sent.
  have fraction : signedAt d s method parts' headers' payload
      (Moment.utcReading day instant now.microsecond) =
      signedAt d s method parts' headers' payload
        (Moment.utcReading day instant now'.microsecond) := rfl
  refine ⟨_, _, sign_eq_signedAt cut utc d s method headers payload, ?_, perm, nodup,
    Entries.get?_of_perm nodup perm⟩
  rw [fraction]
  exact sign_eq_signedAt cut' utc' d s method headers' payload

/-- Half an hour into a year, told before midnight in the west and in the morning in the east. -/
theorem sign_across_midnight : ∃ signed signed',
    sign sha256 ⟨"id", "key", "auto", "s3"⟩ "PUT" "https://store/a?b=1&&a=2"
        [("X-A".toList, " 1  2".toList), ("B".toList, "x".toList)] []
        ⟨⟨2023, 12, 31⟩, 23, 30, 0, 0, .ok (-3600)⟩ = .ok signed ∧
      sign sha256 ⟨"id", "key", "auto", "s3"⟩ "PUT" "https://store/a?a=2&b=1&"
        [("b".toList, "x".toList), ("x-A".toList, "1\t2\n".toList)] []
        ⟨⟨2024, 1, 1⟩, 9, 30, 0, 5, .ok 32400⟩ = .ok signed' ∧
      signed.Perm signed' ∧ (signed.map Prod.fst).Nodup ∧
      ∀ name, Entries.get? signed name = Entries.get? signed' name := by
  have day (year month day : Nat) (inside : (1 ≤ year ∧ year ≤ 9999) ∧ (1 ≤ month ∧ month ≤ 12) ∧
      1 ≤ day ∧ day ≤ Date.monthLength year month) : Date.IsDay ⟨year, month, day⟩ :=
    ⟨inside.1, inside.2.1, inside.2.2⟩
  have one : Text.Spaced ["1".toList, "2".toList] ("1".toList ++ ' ' :: " 2".toList) :=
    .word (by decide) (List.forall_mem_singleton.mpr rfl) rfl
      (.blank rfl (.last (by decide) (List.forall_mem_singleton.mpr rfl)))
  have two : Text.Spaced ["2".toList] ("2".toList ++ '\n' :: []) :=
    .word (by decide) (List.forall_mem_singleton.mpr rfl) rfl .nil
  have both : Text.Spaced ["1".toList, "2".toList] ("1".toList ++ '\t' :: "2\n".toList) :=
    .word (by decide) (List.forall_mem_singleton.mpr rfl) rfl two
  have first : Alike ("X-A".toList, " 1  2".toList) ("x-A".toList, "1\t2\n".toList) :=
    ⟨by simp, by simp, rfl, _, .blank rfl one, both⟩
  have plain : Text.Spaced ["x".toList] "x".toList :=
    .last (by decide) (List.forall_mem_singleton.mpr rfl)
  have second : Alike ("B".toList, "x".toList) ("b".toList, "x".toList) :=
    ⟨by simp, by simp, rfl, _, plain, plain⟩
  have same : SameHeaders [("X-A".toList, " 1  2".toList), ("B".toList, "x".toList)]
      [("b".toList, "x".toList), ("x-A".toList, "1\t2\n".toList)] :=
    ⟨_, .swap _ _ _, .cons second (.cons first .nil)⟩
  have cut : Url.split "https://store/a?b=1&&a=2".toList =
      .ok ⟨"https".toList, "store".toList, "/a".toList, "b=1&&a=2".toList, []⟩ := by
    decide
  have cut' : Url.split "https://store/a?a=2&b=1&".toList =
      .ok ⟨"https".toList, "store".toList, "/a".toList, "a=2&b=1&".toList, []⟩ := by
    decide
  have shown : Moment.Shows ⟨⟨2023, 12, 31⟩, 23, 30, 0, 0, .ok (-3600)⟩ 63839752200 :=
    ⟨day 2023 12 31 (by decide), _, rfl, by decide⟩
  have shown' : Moment.Shows ⟨⟨2024, 1, 1⟩, 9, 30, 0, 5, .ok 32400⟩ 63839752200 :=
    ⟨day 2024 1 1 (by decide), _, rfl, by decide⟩
  exact sign_insensitive cut cut' rfl rfl (by decide) same (by decide) shown shown'
    (day 2024 1 1 (by decide)) (by decide)

end ImageFiling.SignatureV4
