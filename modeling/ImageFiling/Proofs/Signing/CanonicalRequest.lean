import ImageFiling.Proofs.Text.Case
import ImageFiling.Proofs.Text.Percent
import ImageFiling.Proofs.Text.Entries
import ImageFiling.Proofs.Url.Parts
import ImageFiling.Signing.SignatureV4

/-!
# Canonical requests

The text of a canonical request can be read in one way only. Its parts hold no line feed and its
header names no colon, so the lines of the text are its parts: three lines, a line for each header,
an empty line, and two more. `canonical_text_unambiguous` says this of any two requests that are
made ready to be signed.
-/

namespace ImageFiling.SignatureV4

/-- A header that stands on a line of its own and can be cut at its first colon. -/
structure CleanHeader (h : Text × Text) : Prop where
  name_line : '\n' ∉ h.1
  name_colon : ':' ∉ h.1
  value_line : '\n' ∉ h.2

def headerLine (h : Text × Text) : Text := h.1 ++ ':' :: h.2

theorem CleanHeader.of_name {name value : Text} (nameLine : '\n' ∉ name) (nameColon : ':' ∉ name)
    (valueLine : '\n' ∉ value) : CleanHeader (name, value) :=
  ⟨nameLine, nameColon, valueLine⟩

theorem CleanHeader.not_mem_line {h : Text × Text} (clean : CleanHeader h) :
    '\n' ∉ headerLine h := by
  intro member
  rcases List.mem_append.mp member with inName | later
  · exact clean.name_line inName
  · rcases List.mem_cons.mp later with colon | inValue
    · exact absurd colon (by decide)
    · exact clean.value_line inValue

theorem CleanHeader.cut_line {h : Text × Text} (clean : CleanHeader h) :
    (headerLine h).cut ':' = (h.1, some h.2) :=
  Text.cut_append_cons clean.name_colon h.2

theorem headerLine_inj {a b : Text × Text} (left : CleanHeader a) (right : CleanHeader b)
    (same : headerLine a = headerLine b) : a = b := by
  have cuts := left.cut_line
  rw [same, right.cut_line] at cuts
  have names := congrArg Prod.fst cuts
  have values := Option.some.inj (congrArg Prod.snd cuts)
  exact Prod.ext names.symm values.symm

theorem headerLines_inj {as bs : Headers} (left : ∀ h ∈ as, CleanHeader h)
    (right : ∀ h ∈ bs, CleanHeader h) (same : as.map headerLine = bs.map headerLine) : as = bs := by
  induction as generalizing bs with
  | nil => exact (List.map_eq_nil_iff.mp same.symm).symm
  | cons a as ih =>
    cases bs with
    | nil => cases same
    | cons b bs =>
      obtain ⟨first, rest⟩ := List.cons.inj same
      rw [headerLine_inj (left a List.mem_cons_self) (right b List.mem_cons_self) first,
        ih (fun h member => left h (List.mem_cons_of_mem a member))
          (fun h member => right h (List.mem_cons_of_mem b member)) rest]

namespace CanonicalRequest

attribute [ext] CanonicalRequest

/-- A canonical request whose parts stand on lines of their own. -/
structure Clean (r : CanonicalRequest) : Prop where
  method : '\n' ∉ r.method
  path : '\n' ∉ r.path
  query : '\n' ∉ r.query
  headers : ∀ h ∈ r.headers, CleanHeader h
  payloadDigest : '\n' ∉ r.payloadDigest

def lines (r : CanonicalRequest) : List Text :=
  r.method :: r.path :: r.query :: (r.headers.map headerLine ++ [[], r.names, r.payloadDigest])

theorem joined_block (ls : List Text) {rest : List Text} (some : rest ≠ []) :
    ls.flatMap (· ++ ['\n']) ++ Text.joined "\n" rest = Text.joined "\n" (ls ++ rest) := by
  induction ls with
  | nil => rfl
  | cons l ls ih =>
    obtain ⟨next, others, shape⟩ := List.exists_cons_of_ne_nil
      (List.append_ne_nil_of_right_ne_nil ls some)
    rw [List.flatMap_cons, List.append_assoc, ih, List.cons_append, shape]
    rfl

theorem text_eq_joined (r : CanonicalRequest) : r.text = Text.joined "\n" r.lines := by
  have block := joined_block (r.headers.map headerLine)
    (List.cons_ne_nil [] [r.names, r.payloadDigest])
  have headers : r.text = Text.joined "\n" [r.method, r.path, r.query,
      (r.headers.map headerLine).flatMap (· ++ ['\n']), r.names, r.payloadDigest] := by
    rw [List.flatMap_map]
    rfl
  rw [headers]
  unfold lines
  obtain ⟨next, others, shape⟩ := List.exists_cons_of_ne_nil
    (List.append_ne_nil_of_right_ne_nil (r.headers.map headerLine)
      (List.cons_ne_nil [] [r.names, r.payloadDigest]))
  rw [shape] at block ⊢
  simp only [Text.joined] at block ⊢
  rw [← block]
  simp only [List.append_assoc, List.nil_append]

theorem Clean.not_mem_names {r : CanonicalRequest} (clean : r.Clean) : '\n' ∉ r.names := by
  intro member
  rcases Text.mem_joined member with separator | ⟨name, inNames, inside⟩
  · exact absurd separator (by decide)
  · obtain ⟨h, inHeaders, rfl⟩ := List.mem_map.mp inNames
    exact (clean.headers h inHeaders).name_line inside

theorem Clean.not_mem_line {r : CanonicalRequest} (clean : r.Clean) :
    ∀ line ∈ r.lines, '\n' ∉ line := by
  unfold lines
  simp only [List.forall_mem_cons, List.forall_mem_append, List.forall_mem_map]
  refine ⟨clean.method, clean.path, clean.query, fun h member => ?_, ?_, clean.not_mem_names,
    clean.payloadDigest, List.forall_mem_nil _⟩
  · exact (clean.headers h member).not_mem_line
  · exact List.not_mem_nil

theorem Clean.pieces_text {r : CanonicalRequest} (clean : r.Clean) :
    Text.pieces '\n' r.text = r.lines := by
  rw [text_eq_joined]
  exact Text.pieces_joined (List.cons_ne_nil _ _) clean.not_mem_line

/-- The block of headers is found from both ends: three lines stand before it and three after. -/
theorem Clean.eq_of_text_eq {a b : CanonicalRequest} (left : a.Clean) (right : b.Clean)
    (same : a.text = b.text) : a = b := by
  have lines : a.lines = b.lines := by rw [← left.pieces_text, ← right.pieces_text, same]
  unfold CanonicalRequest.lines at lines
  obtain ⟨method, later⟩ := List.cons.inj lines
  obtain ⟨path, later⟩ := List.cons.inj later
  obtain ⟨query, later⟩ := List.cons.inj later
  obtain ⟨block, tail⟩ := List.append_inj' later rfl
  have headers := headerLines_inj left.headers right.headers block
  obtain ⟨-, digest⟩ := List.cons.inj (List.cons.inj tail).2
  have payloadDigest := (List.cons.inj digest).1
  exact CanonicalRequest.ext method path query headers payloadDigest

end CanonicalRequest

/-! ### Requests made ready to be signed -/

theorem isDigit_of_mem_dayStamp {m : Moment} {c : Char} (member : c ∈ dayStamp m) :
    c.isDigit = true := by
  rcases List.mem_append.mp member with before | day
  · rcases List.mem_append.mp before with year | month
    · exact Text.isDigit_of_mem_numeral year
    · exact Text.isDigit_of_mem_padded month
  · exact Text.isDigit_of_mem_padded day

theorem timeStamp_alphanum {m : Moment} {c : Char} (member : c ∈ timeStamp m) :
    c.isAlphanum = true := by
  have digits (digit : c.isDigit = true) : c.isAlphanum = true := by
    simp only [Char.isAlphanum, digit, Bool.or_true]
  simp only [timeStamp, List.mem_append, List.mem_cons, List.not_mem_nil, or_false] at member
  rcases member with ((((day | rfl | hour) | minute) | second) | rfl)
  · exact digits (isDigit_of_mem_dayStamp day)
  · decide
  · exact digits (Text.isDigit_of_mem_padded hour)
  · exact digits (Text.isDigit_of_mem_padded minute)
  · exact digits (Text.isDigit_of_mem_padded second)
  · decide

theorem hexText_alphanum {bytes : Bytes} {c : Char} (member : c ∈ hexText bytes) :
    c.isAlphanum = true := by
  obtain ⟨b, -, inside⟩ := List.mem_flatMap.mp member
  exact Text.isAlphanum_of_mem_hex inside

theorem not_mem_encode_line (t : Text) : '\n' ∉ Percent.encode Percent.isUnreserved t := by
  intro member
  rcases Percent.of_mem_encode member with safe | percent | digit
  · exact absurd safe (by decide)
  · exact absurd percent (by decide)
  · exact absurd digit (by decide)

theorem not_mem_query_line (query : Text) : '\n' ∉ Query.canonical query := by
  intro member
  rcases Text.mem_joined member with separator | ⟨line, inLines, inside⟩
  · exact absurd separator (by decide)
  · obtain ⟨pair, inSorted, rfl⟩ := List.mem_map.mp inLines
    obtain ⟨plain, -, rfl⟩ := List.mem_map.mp (List.mem_mergeSort.mp inSorted)
    rcases List.mem_append.mp inside with inName | later
    · exact not_mem_encode_line plain.1 inName
    · rcases List.mem_cons.mp later with equals | inValue
      · exact absurd equals (by decide)
      · exact not_mem_encode_line plain.2 inValue

theorem name_of_canonicalHeaders {headers : Headers} {h : Text × Text}
    (member : h ∈ canonicalHeaders headers) :
    ∃ given ∈ headers, h.1 = Text.strip (Text.lower given.1) := by
  rcases Entries.mem_putAll member with none | new
  · cases none
  · obtain ⟨given, inside, rfl⟩ := List.mem_map.mp new
    exact ⟨given, inside, rfl⟩

theorem canonicalHeaders_clean {headers : Headers}
    (names : ∀ h ∈ headers, '\n' ∉ h.1 ∧ ':' ∉ h.1) :
    ∀ h ∈ canonicalHeaders headers, CleanHeader h := by
  intro h member
  rcases Entries.mem_putAll member with none | new
  · cases none
  · obtain ⟨given, inside, rfl⟩ := List.mem_map.mp new
    constructor
    · intro line
      have mapped := Text.mem_of_mem_strip line
      exact (names given inside).1 (Text.mem_of_mem_lower (by decide) (by decide) mapped)
    · intro colon
      have mapped := Text.mem_of_mem_strip colon
      exact (names given inside).2 (Text.mem_of_mem_lower (by decide) (by decide) mapped)
    · exact Text.not_mem_joined_words (by decide) (by decide) given.2

def stamped (host stamp : Text) (headers : Headers) : Headers :=
  Entries.put (Entries.put (canonicalHeaders headers) "host" host) "x-amz-date" stamp

theorem signedHeaders_of_given {d : Digests} {host stamp digest : Text} {headers : Headers}
    {payload : Bytes} (given : Entries.get? (stamped host stamp headers) digestHeader = some digest) :
    signedHeaders d host stamp headers payload = stamped host stamp headers := by
  unfold stamped at given
  simp only [signedHeaders, given]
  rfl

theorem signedHeaders_of_missing {d : Digests} {host stamp : Text} {headers : Headers}
    {payload : Bytes} (missing : Entries.get? (stamped host stamp headers) digestHeader = none) :
    signedHeaders d host stamp headers payload =
      Entries.put (stamped host stamp headers) digestHeader (hexText (d.plain payload)) := by
  unfold stamped at missing
  simp only [signedHeaders, missing]
  rfl

theorem mem_signedHeaders {d : Digests} {host stamp : Text} {headers : Headers} {payload : Bytes}
    {h : Text × Text} (member : h ∈ signedHeaders d host stamp headers payload) :
    h ∈ canonicalHeaders headers ∨ h = ("host".toList, host) ∨ h = ("x-amz-date".toList, stamp) ∨
      h = (digestHeader, hexText (d.plain payload)) := by
  have base : h ∈ stamped host stamp headers ∨ h = (digestHeader, hexText (d.plain payload)) := by
    cases given : Entries.get? (stamped host stamp headers) digestHeader with
    | some digest =>
      rw [signedHeaders_of_given given] at member
      exact .inl member
    | none =>
      rw [signedHeaders_of_missing given] at member
      exact (Entries.mem_put member).symm
  rcases base with before | digest
  · rcases Entries.mem_put before with date | earlier
    · exact .inr (.inr (.inl date))
    · rcases Entries.mem_put earlier with named | given
      · exact .inr (.inl named)
      · exact .inl given
  · exact .inr (.inr (.inr digest))

theorem signedHeaders_clean {d : Digests} {host stamp : Text} {headers : Headers} {payload : Bytes}
    (names : ∀ h ∈ headers, '\n' ∉ h.1 ∧ ':' ∉ h.1) (hostLine : '\n' ∉ host)
    (stampLine : '\n' ∉ stamp) : ∀ h ∈ signedHeaders d host stamp headers payload, CleanHeader h := by
  intro h member
  rcases mem_signedHeaders member with given | rfl | rfl | rfl
  · exact canonicalHeaders_clean names h given
  · exact CleanHeader.of_name (by decide) (by decide) hostLine
  · exact CleanHeader.of_name (by decide) (by decide) stampLine
  · exact CleanHeader.of_name (by decide) (by decide) fun line =>
      absurd (hexText_alphanum line) (by decide)

theorem canonicalRequest_clean {method : Text} {url : Url} {signed : Headers}
    (methodLine : '\n' ∉ method) (pathLine : '\n' ∉ url.path)
    (headers : ∀ h ∈ signed, CleanHeader h) : (canonicalRequest method url signed).Clean where
  method := fun member =>
    methodLine (Text.mem_of_mem_upper (by decide) (by decide) member)
  path := by
    change '\n' ∉ if url.path.isEmpty then "/".toList else url.path
    cases url.path.isEmpty with
    | true => exact of_decide_eq_false rfl
    | false => exact pathLine
  query := not_mem_query_line url.query
  headers := fun h member => headers h (List.mem_mergeSort.mp member)
  payloadDigest := by
    change '\n' ∉ (Entries.get? signed digestHeader).getD []
    cases found : Entries.get? signed digestHeader with
    | none => exact List.not_mem_nil
    | some digest => exact (headers _ (Entries.mem_of_get? found)).value_line

theorem prepare_ok {d : Digests} {method url : Text} {headers : Headers} {payload : Bytes}
    {now : Moment} {p : Prepared} (ready : prepare d method url headers payload now = .ok p) :
    ∃ utc parts, now.toUtc = .ok utc ∧ Url.split url = .ok parts ∧
      p = ⟨utc, signedHeaders d parts.authority (timeStamp utc) headers payload,
        canonicalRequest method parts
          (signedHeaders d parts.authority (timeStamp utc) headers payload)⟩ := by
  unfold prepare at ready
  cases time : now.toUtc with
  | error f =>
    rw [time] at ready
    cases ready
  | ok utc =>
    cases cut : Url.split url with
    | error f =>
      rw [time, cut] at ready
      cases ready
    | ok parts =>
      rw [time, cut] at ready
      exact ⟨utc, parts, rfl, rfl, (Except.ok.inj ready).symm⟩

theorem prepare_clean {d : Digests} {method url : Text} {headers : Headers} {payload : Bytes}
    {now : Moment} {p : Prepared} (methodLine : '\n' ∉ method)
    (names : ∀ h ∈ headers, '\n' ∉ h.1 ∧ ':' ∉ h.1)
    (ready : prepare d method url headers payload now = .ok p) : p.request.Clean := by
  obtain ⟨utc, parts, -, cut, rfl⟩ := prepare_ok ready
  obtain ⟨authority, path, -⟩ := Url.not_mem_of_split cut (show Url.isSkipped '\n' = true by decide)
  have stamp : '\n' ∉ timeStamp utc := fun line => absurd (timeStamp_alphanum line) (by decide)
  exact canonicalRequest_clean methodLine path (signedHeaders_clean names authority stamp)

theorem name_of_prepare {d : Digests} {method url : Text} {headers : Headers} {payload : Bytes}
    {now : Moment} {p : Prepared} (ready : prepare d method url headers payload now = .ok p) :
    ∀ h ∈ p.request.headers, (∃ given ∈ headers, h.1 = Text.strip (Text.lower given.1)) ∨
      h.1 ∈ ["host".toList, "x-amz-date".toList, digestHeader] := by
  intro h member
  obtain ⟨utc, parts, -, -, rfl⟩ := prepare_ok ready
  rcases mem_signedHeaders (List.mem_mergeSort.mp member) with given | rfl | rfl | rfl
  · exact .inl (name_of_canonicalHeaders given)
  · exact .inr List.mem_cons_self
  · exact .inr (List.mem_cons_of_mem _ List.mem_cons_self)
  · exact .inr (List.mem_cons_of_mem _ (List.mem_cons_of_mem _ List.mem_cons_self))

/-- Two requests with one text are one request, and the text has a line for each signed header and
no other, whatever the values and the URL hold. -/
theorem canonical_text_unambiguous {d d' : Digests} {method method' url url' : Text}
    {headers headers' : Headers} {payload payload' : Bytes} {now now' : Moment} {p q : Prepared}
    (methodLine : '\n' ∉ method) (methodLine' : '\n' ∉ method')
    (names : ∀ h ∈ headers, '\n' ∉ h.1 ∧ ':' ∉ h.1)
    (names' : ∀ h ∈ headers', '\n' ∉ h.1 ∧ ':' ∉ h.1)
    (first : prepare d method url headers payload now = .ok p)
    (second : prepare d' method' url' headers' payload' now' = .ok q) :
    (p.request.text = q.request.text → p.request = q.request) ∧
      Text.pieces '\n' p.request.text =
        p.request.method :: p.request.path :: p.request.query ::
          (p.request.headers.map headerLine ++ [[], p.request.names, p.request.payloadDigest]) ∧
      ∀ h ∈ p.request.headers,
        (headerLine h).cut ':' = (h.1, some h.2) ∧
          ((∃ given ∈ headers, h.1 = Text.strip (Text.lower given.1)) ∨
            h.1 ∈ ["host".toList, "x-amz-date".toList, digestHeader]) := by
  have left := prepare_clean methodLine names first
  have right := prepare_clean methodLine' names' second
  refine ⟨left.eq_of_text_eq right, left.pieces_text, fun h member => ?_⟩
  exact ⟨(left.headers h member).cut_line, name_of_prepare first h member⟩

theorem injected_line_differs : ∃ p q : Prepared,
    prepare sha256 "PUT" "https://store/a" [("x-a".toList, "1\nx-b:2".toList)] []
        ⟨⟨2024, 2, 29⟩, 12, 0, 0, 0, .ok 0⟩ = .ok p ∧
      prepare sha256 "PUT" "https://store/a" [("x-a".toList, "1".toList), ("x-b".toList, "2".toList)] []
        ⟨⟨2024, 2, 29⟩, 12, 0, 0, 0, .ok 0⟩ = .ok q ∧
      p.request.text ≠ q.request.text := by
  have first : prepare sha256 "PUT" "https://store/a" [("x-a".toList, "1\nx-b:2".toList)] []
    ⟨⟨2024, 2, 29⟩, 12, 0, 0, 0, .ok 0⟩ = .ok _ := rfl
  have second : prepare sha256 "PUT" "https://store/a"
    [("x-a".toList, "1".toList), ("x-b".toList, "2".toList)] []
    ⟨⟨2024, 2, 29⟩, 12, 0, 0, 0, .ok 0⟩ = .ok _ := rfl
  refine ⟨_, _, first, second, fun same => ?_⟩
  have equal := (canonical_text_unambiguous (by decide) (by decide) (by decide) (by decide)
    first second).1 same
  have lengths := congrArg (fun r => r.headers.length) equal
  simp only [canonicalRequest, List.length_mergeSort] at lengths
  exact absurd lengths (by decide)

end ImageFiling.SignatureV4
