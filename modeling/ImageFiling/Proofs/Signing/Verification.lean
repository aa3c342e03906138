import ImageFiling.Proofs.Signing.CanonicalRequest
import ImageFiling.Proofs.Signing.Verifier
import ImageFiling.Proofs.Time.Moment
import ImageFiling.Proofs.Url.Site

/-!
# Signed requests are accepted

What a signer derives from a request before it is sent, a verifier derives from the request that was
sent. `accepts_signed` puts the two together: the headers that are signed are in the form in which
the verifier wants them, and the authorization can be read back.
-/

namespace ImageFiling.SignatureV4

def Signer.verifier (s : Signer) (d : Digests) : Verifier := ⟨d, s.secretKey, s.region, s.service⟩

/-! ### Days and times -/

theorem not_mem_dayStamp {m : Moment} {c : Char} (other : c.isDigit = false) : c ∉ dayStamp m := by
  intro member
  rw [isDigit_of_mem_dayStamp member] at other
  cases other

theorem length_dayStamp {m : Moment} (valid : m.Valid)
    (year : 1000 ≤ m.date.year ∧ m.date.year ≤ 9999) : (dayStamp m).length = 8 := by
  have days := Moment.monthLength_le m.date.year m.date.month
  have month := valid.month
  have day := valid.day
  have digits : (Text.numeral m.date.year).length = 4 := by
    rw [Text.length_numeral_of_le (by omega), Text.length_numeral_of_le (by omega),
      Text.length_numeral_of_le (by omega), Text.length_numeral_of_lt (by omega)]
  unfold dayStamp
  rw [List.length_append, List.length_append, digits, Text.length_padded_two (by omega),
    Text.length_padded_two (by omega)]

theorem take_timeStamp {m : Moment} (valid : m.Valid)
    (year : 1000 ≤ m.date.year ∧ m.date.year ≤ 9999) : (timeStamp m).take 8 = dayStamp m := by
  have length := length_dayStamp valid year
  have shape : timeStamp m = dayStamp m ++ ('T' :: Text.padded 2 m.hour ++ Text.padded 2 m.minute ++
      Text.padded 2 m.second ++ ['Z']) := by
    simp only [timeStamp, List.append_assoc]
  rw [shape, List.take_append_of_le_length (by omega), List.take_of_length_le (by omega)]

/-! ### The authorization -/

theorem signature_eq (d : Digests) (s : Signer) (now : Moment) (r : CanonicalRequest) :
    (s.verifier d).signature (dayStamp now) (timeStamp now) r.text = signature d s now r := rfl

theorem readAuthorization_joined (v : Verifier) {credential names signature : Text}
    (inNames : ',' ∉ names) (inSignature : ',' ∉ signature) :
    v.readAuthorization
        (credential ++ ',' :: (" SignedHeaders=" ++ names ++ ',' :: (" Signature=" ++ signature))) =
      (Text.after? "AWS4-HMAC-SHA256 Credential=" credential).bind fun credential =>
        (List.isSuffixOf? ('/' :: Text.joined "/" [v.region, v.service, "aws4_request"])
          credential).bind fun owner =>
            some ⟨Text.afterLast '/' owner, names, signature⟩ := by
  have secondLast : ',' ∉ " SignedHeaders=" ++ names := by
    rw [List.mem_append]
    rintro (mark | inside)
    · exact absurd mark (by decide)
    · exact inNames inside
  have last : ',' ∉ " Signature=" ++ signature := by
    rw [List.mem_append]
    rintro (mark | inside)
    · exact absurd mark (by decide)
    · exact inSignature inside
  have order : (Text.pieces ',' (credential ++ ',' :: (" SignedHeaders=" ++ names ++
      ',' :: (" Signature=" ++ signature)))).reverse =
      (" Signature=" ++ signature) :: (" SignedHeaders=" ++ names) ::
        (Text.pieces ',' credential).reverse := by
    rw [Text.pieces_append_cons, Text.pieces_append_cons, Text.pieces_singleton secondLast,
      Text.pieces_singleton last, List.reverse_append]
    rfl
  have whole : Text.joined "," (Text.pieces ',' credential) = credential :=
    Text.joined_pieces ',' credential
  unfold Verifier.readAuthorization
  rw [order]
  simp only [Text.after?_append, List.reverse_reverse, whole]
  rfl

theorem scope_eq (s : Signer) (day : Text) :
    scope s day = day ++ '/' :: Text.joined "/" [s.region, s.service, "aws4_request"] :=
  List.append_assoc day "/".toList _

theorem authorization_eq (d : Digests) (s : Signer) (now : Moment) (r : CanonicalRequest) :
    authorization d s now r =
      "AWS4-HMAC-SHA256 Credential=" ++ (s.accessId ++ '/' :: dayStamp now ++
        '/' :: Text.joined "/" [s.region, s.service, "aws4_request"]) ++
      ',' :: (" SignedHeaders=" ++ r.names ++ ',' :: (" Signature=" ++ signature d s now r)) := by
  have start : algorithm ++ " Credential=" = "AWS4-HMAC-SHA256 Credential=".toList := rfl
  have middle (t : Text) : ", SignedHeaders=".toList ++ t = ',' :: (" SignedHeaders=" ++ t) := rfl
  have finish (t : Text) : ", Signature=".toList ++ t = ',' :: (" Signature=" ++ t) := rfl
  unfold authorization
  rw [start, scope_eq]
  simp only [List.append_assoc, List.cons_append, middle, finish]

theorem readAuthorization_authorization (d : Digests) (s : Signer) (now : Moment)
    {r : CanonicalRequest} (names : ',' ∉ r.names) :
    (s.verifier d).readAuthorization (authorization d s now r) =
      some ⟨dayStamp now, r.names, signature d s now r⟩ := by
  have inSignature : ',' ∉ signature d s now r := by
    intro member
    exact absurd (hexText_alphanum member) (by decide)
  rw [authorization_eq, readAuthorization_joined _ names inSignature, Text.after?_append,
    Option.bind_some]
  change (List.isSuffixOf? ('/' :: Text.joined "/" [s.region, s.service, "aws4_request"])
    (s.accessId ++ '/' :: dayStamp now ++
      '/' :: Text.joined "/" [s.region, s.service, "aws4_request"])).bind _ = _
  rw [Text.isSuffixOf?_append, Option.bind_some,
    Text.afterLast_append_cons (not_mem_dayStamp (by decide))]

/-! ### The headers -/

/-- A header that a verifier covers as it is sent. -/
structure Settled (h : Text × Text) : Prop where
  name_lower : Text.lower h.1 = h.1
  name_comma : ',' ∉ h.1
  name_other : h.1 ≠ "authorization".toList
  value : Text.joined " " (Text.words h.2) = h.2

/-- A name that a given header may have: it is lower case and is not one that the signer sets. -/
structure ProperName (name : Text) : Prop where
  lower : Text.lower name = name
  comma : ',' ∉ name
  other : name ≠ "authorization".toList
  no_digest : name ≠ digestHeader

def Proper (headers : Headers) : Prop := ∀ h ∈ canonicalHeaders headers, ProperName h.1

theorem canonicalHeaders_value {headers : Headers} {h : Text × Text}
    (member : h ∈ canonicalHeaders headers) : Text.joined " " (Text.words h.2) = h.2 := by
  rcases Entries.mem_putAll member with none | new
  · cases none
  · obtain ⟨given, -, rfl⟩ := List.mem_map.mp new
    exact Text.collapse_collapse given.2

theorem collapse_of_alphanum {t : Text} (plain : ∀ c ∈ t, c.isAlphanum = true) :
    Text.joined " " (Text.words t) = t := by
  apply Text.collapse_of_solid
  intro c member
  exact Text.isBlank_of_isAlphanum (plain c member)

theorem signedHeaders_settled {d : Digests} {host : Text} {now : Moment} {headers : Headers}
    {content : Bytes} (proper : Proper headers) (solid : ∀ c ∈ host, Text.isBlank c = false) :
    ∀ h ∈ signedHeaders d host (timeStamp now) headers content, Settled h := by
  intro h member
  rcases mem_signedHeaders member with given | rfl | rfl | rfl
  · have name := proper h given
    exact ⟨name.lower, name.comma, name.other, canonicalHeaders_value given⟩
  · exact ⟨of_decide_eq_true rfl, of_decide_eq_true rfl, of_decide_eq_true rfl,
      Text.collapse_of_solid solid⟩
  · exact ⟨of_decide_eq_true rfl, of_decide_eq_true rfl, of_decide_eq_true rfl,
      collapse_of_alphanum fun _ => timeStamp_alphanum⟩
  · exact ⟨of_decide_eq_true rfl, of_decide_eq_true rfl, of_decide_eq_true rfl,
      collapse_of_alphanum fun _ => hexText_alphanum⟩

theorem signedHeaders_proper {d : Digests} {host stamp : Text} {headers : Headers} {content : Bytes}
    (proper : Proper headers) :
    signedHeaders d host stamp headers content =
      Entries.put (stamped host stamp headers) digestHeader (hexText (d.plain content)) := by
  apply signedHeaders_of_missing
  unfold stamped
  rw [Entries.get?_put_of_ne _ _ (by decide), Entries.get?_put_of_ne _ _ (by decide)]
  exact Entries.get?_of_absent fun h member => (proper h member).no_digest

theorem get?_digest {d : Digests} {host stamp : Text} {headers : Headers} {content : Bytes}
    (proper : Proper headers) :
    Entries.get? (signedHeaders d host stamp headers content) digestHeader =
      some (hexText (d.plain content)) := by
  simp [signedHeaders_proper proper]

theorem get?_stamp {d : Digests} {host stamp : Text} {headers : Headers} {content : Bytes}
    (proper : Proper headers) :
    Entries.get? (signedHeaders d host stamp headers content) "x-amz-date" = some stamp := by
  rw [signedHeaders_proper proper, Entries.get?_put_of_ne _ _ (by decide)]
  simp [stamped]

theorem lower_names {signed : Headers} (settled : ∀ h ∈ signed, Settled h) (authorized : Text) :
    (Entries.put signed "authorization" authorized).map
        (fun h => (Text.lower h.1, h.2)) =
      Entries.put signed "authorization" authorized := by
  have same : ∀ h ∈ Entries.put signed "authorization" authorized, (Text.lower h.1, h.2) = h := by
    intro h member
    rcases Entries.mem_put member with rfl | before
    · rfl
    · rw [(settled h before).name_lower]
  exact (List.map_congr_left same).trans (List.map_id _)

theorem coveredHeaders_put {signed : Headers} (settled : ∀ h ∈ signed, Settled h)
    (authorized : Text) :
    Verifier.coveredHeaders (Entries.put signed "authorization" authorized) =
      signed.mergeSort fun a b => Text.le a.1 b.1 := by
  have absent : ∀ h ∈ signed, h.1 ≠ "authorization".toList := fun h member =>
    (settled h member).name_other
  have covered : (Entries.put signed "authorization" authorized).filter
      (·.1 ≠ "authorization".toList) = signed := by
    have kept : signed.filter (·.1 ≠ "authorization".toList) = signed := by
      apply List.filter_eq_self.mpr
      intro h member
      exact decide_eq_true (absent h member)
    rw [Entries.put_of_absent absent, List.filter_append, kept]
    exact List.append_nil signed
  have same : ∀ h ∈ signed, (h.1, Text.joined " " (Text.words h.2)) = h := by
    intro h member
    rw [(settled h member).value]
  have values : signed.map (fun h => (h.1, Text.joined " " (Text.words h.2))) =
      signed := (List.map_congr_left same).trans (List.map_id _)
  unfold Verifier.coveredHeaders
  rw [covered, values]

/-! ### Acceptance -/

theorem arrival?_https {host : Text} (plain : ∀ c ∈ host, Url.isHostChar c = true)
    (method rest : Text) (headers : Headers) (content : Option Bytes) :
    Verifier.arrival? ⟨method, .text ("https://" ++ host ++ '/' :: rest), .body headers content⟩ =
      some ⟨method, (Url.ofHttps host rest).path, (Url.ofHttps host rest).query,
        headers.map fun h => (Text.lower h.1, h.2), content.getD []⟩ := by
  have slash : Url.isHostChar '/' = false := by decide
  have passes := Text.forall_ne_of_not_mem (Url.not_mem_host plain slash)
  have target : (host ++ '/' :: rest).dropWhile (· != '/') = '/' :: rest := by
    rw [List.dropWhile_append_of_pos passes]
    rfl
  unfold Verifier.arrival?
  simp only [List.append_assoc, Text.after?_append, Option.map_some, target]
  rfl

theorem arrival_text {a : Verifier.Arrival} {r : CanonicalRequest} {digest : Text}
    (method : a.method = r.method) (path : Verifier.pathForm a.path = r.path)
    (query : Verifier.queryForm a.query = r.query)
    (headers : Verifier.coveredHeaders a.headers = r.headers) (digests : digest = r.payloadDigest) :
    a.text digest = r.text := by
  unfold Verifier.Arrival.text Verifier.coveredNames
  rw [method, path, query, headers, digests, r.text_eq_joined]
  rfl

theorem bearsOut_signature {d : Digests} {s : Signer} {now : Moment} {a : Verifier.Arrival}
    {r : CanonicalRequest} (day : (timeStamp now).take 8 = dayStamp now)
    (names : Verifier.coveredNames a.headers = r.names)
    (digest : hexText (d.plain a.body) = r.payloadDigest) (text : a.text r.payloadDigest = r.text) :
    (s.verifier d).bearsOut a (timeStamp now) r.payloadDigest
      ⟨dayStamp now, r.names, signature d s now r⟩ = true := by
  unfold Verifier.bearsOut
  change (dayStamp now == (timeStamp now).take 8 && r.names == Verifier.coveredNames a.headers &&
    r.payloadDigest == hexText (d.plain a.body) && signature d s now r ==
      (s.verifier d).signature (dayStamp now) (timeStamp now) (a.text (hexText (d.plain a.body)))) =
    true
  rw [day, names, digest, text, signature_eq]
  simp only [beq_self_eq_true, Bool.and_self]

theorem accepts_of {v : Verifier} {r : Http.Request} {a : Verifier.Arrival}
    {authorized stamp digest : Text} {claimed : Verifier.Claimed}
    (arrived : Verifier.arrival? r = some a)
    (carried : Entries.get? a.headers "authorization" = some authorized)
    (read : v.readAuthorization authorized = some claimed)
    (timed : Entries.get? a.headers "x-amz-date" = some stamp)
    (hashed : Entries.get? a.headers "x-amz-content-sha256" = some digest)
    (borne : v.bearsOut a stamp digest claimed = true) : v.accepts r = true := by
  unfold Verifier.accepts
  simp only [arrived, Option.bind_eq_bind, Option.bind_some, carried, read, timed, hashed]
  exact borne

theorem not_mem_names_comma {r : CanonicalRequest} (settled : ∀ h ∈ r.headers, Settled h) :
    ',' ∉ r.names := by
  intro member
  rcases Text.mem_joined member with separator | ⟨name, inNames, inside⟩
  · exact absurd separator (by decide)
  · obtain ⟨h, inHeaders, rfl⟩ := List.mem_map.mp inNames
    exact (settled h inHeaders).name_comma inside

section

variable {d : Digests} {s : Signer} {now : Moment}

/-- A request is accepted when it arrives with settled headers and the authorization made from them,
and its path, query and body are those of the canonical request. -/
theorem accepts_authorized (r : CanonicalRequest) {signed : Headers} {sent : Http.Request}
    {method path query : Text} {body : Bytes} (settled : ∀ h ∈ signed, Settled h)
    (stamp : Entries.get? signed "x-amz-date" = some (timeStamp now))
    (digest : Entries.get? signed digestHeader = some r.payloadDigest)
    (headers : r.headers = signed.mergeSort fun a b => Text.le a.1 b.1)
    (arrived : Verifier.arrival? sent = some ⟨method, path, query,
      (Entries.put signed "authorization" (authorization d s now r)).map
        fun h => (Text.lower h.1, h.2), body⟩)
    (same : method = r.method) (pathForm : Verifier.pathForm path = r.path)
    (queryForm : Verifier.queryForm query = r.query) (hashed : hexText (d.plain body) =
      r.payloadDigest) (day : (timeStamp now).take 8 = dayStamp now) : (s.verifier d).accepts sent = true := by
  have stampOther : "x-amz-date".toList ≠ "authorization".toList := by decide
  have digestOther : digestHeader ≠ "authorization".toList := by decide
  have settledInOrder : ∀ h ∈ r.headers, Settled h := by
    intro h member
    rw [headers] at member
    exact settled h (List.mem_mergeSort.mp member)
  have covered : Verifier.coveredHeaders
      (Entries.put signed "authorization" (authorization d s now r)) = r.headers := by
    rw [coveredHeaders_put settled, headers]
  have names : Verifier.coveredNames
      (Entries.put signed "authorization" (authorization d s now r)) = r.names := by
    unfold Verifier.coveredNames
    rw [covered]
    rfl
  rw [lower_names settled] at arrived
  apply accepts_of arrived (by simp)
    (readAuthorization_authorization d s now (not_mem_names_comma settledInOrder))
  · simpa [stampOther] using stamp
  · change Entries.get? _ digestHeader = _
    rw [Entries.get?_put_of_ne _ _ digestOther]
    exact digest
  · apply bearsOut_signature day names hashed
    exact arrival_text same pathForm queryForm covered rfl

end

section

variable {d : Digests} {s : Signer} {method host rest : Text} {headers : Headers} {content : Bytes}
  {now : Moment}

theorem prepare_https (plain : ∀ c ∈ host, Url.isHostChar c = true)
    (visible : ∀ c ∈ rest, 0x20 < c.toNat ∧ c ≠ '#') (valid : now.Valid) :
    prepare d method ("https://" ++ host ++ '/' :: rest) headers content
        { now with utcOffset := .ok 0 } =
      .ok ⟨{ now with utcOffset := .ok 0 },
        signedHeaders d host (timeStamp now) headers content,
        canonicalRequest method (Url.ofHttps host rest)
          (signedHeaders d host (timeStamp now) headers content)⟩ := by
  unfold prepare
  rw [valid.toUtc, Url.split_https plain visible]
  rfl

/-- A request is accepted when it is sent with the headers that its signing gave, and with a body
that stands for what was signed. -/
theorem accepts_signed {body : Option Bytes} (sent : body.getD [] = content)
    (upper : Text.upper method = method) (proper : Proper headers)
    (plain : ∀ c ∈ host, Url.isHostChar c = true)
    (visible : ∀ c ∈ rest, 0x20 < c.toNat ∧ c ≠ '#')
    (path : Verifier.pathForm (Url.ofHttps host rest).path = (Url.ofHttps host rest).path)
    (query : Verifier.queryForm (Url.ofHttps host rest).query =
      Query.canonical (Url.ofHttps host rest).query)
    (valid : now.Valid) (year : 1000 ≤ now.date.year ∧ now.date.year ≤ 9999) :
    ∃ signed,
      sign d s method ("https://" ++ host ++ '/' :: rest) headers content
          { now with utcOffset := .ok 0 } = .ok signed ∧
        (s.verifier d).accepts
          ⟨method, .text ("https://" ++ host ++ '/' :: rest), .body signed body⟩ = true := by
  have solid : ∀ c ∈ host, Text.isBlank c = false := by
    intro c member
    have bounds := Url.toNat_of_isHostChar (plain c member)
    exact Text.isBlank_eq_false (by omega) (by omega)
  have digest : (canonicalRequest method (Url.ofHttps host rest)
      (signedHeaders d host (timeStamp now) headers content)).payloadDigest =
        hexText (d.plain content) := by
    change (Entries.get? _ digestHeader).getD [] = _
    rw [get?_digest proper]
    rfl
  have ready : sign d s method ("https://" ++ host ++ '/' :: rest) headers content
      { now with utcOffset := .ok 0 } = .ok (Entries.put
        (signedHeaders d host (timeStamp now) headers content) "authorization"
        (authorization d s now (canonicalRequest method (Url.ofHttps host rest)
          (signedHeaders d host (timeStamp now) headers content)))) := by
    unfold sign
    rw [prepare_https plain visible valid]
    rfl
  refine ⟨_, ready, ?_⟩
  apply accepts_authorized (canonicalRequest method (Url.ofHttps host rest)
    (signedHeaders d host (timeStamp now) headers content)) (signedHeaders_settled proper solid)
    (get?_stamp proper) _ rfl (arrival?_https plain method rest _ body) upper.symm path query _
    (take_timeStamp valid year)
  · rw [digest, get?_digest proper]
  · rw [digest, sent]

end

end ImageFiling.SignatureV4
