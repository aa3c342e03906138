import ImageFiling.Signing.Sha256
import ImageFiling.Text.Blank
import ImageFiling.Text.Case
import ImageFiling.Text.Entries
import ImageFiling.Text.Numeral
import ImageFiling.Text.Quoted
import ImageFiling.Time.Moment
import ImageFiling.Url.Query
import ImageFiling.Url.Split

/-!
# Signature Version 4

A request to an object store is signed over its canonical form: method, path, query, headers and the
digest of its body, each in a normal form. The digest functions are a parameter.
-/

namespace ImageFiling.SignatureV4

structure Digests where
  plain : Bytes → Bytes
  keyed : Bytes → Bytes → Bytes

def sha256 : Digests := ⟨Sha256.digest, Sha256.keyed⟩

def hexText (bytes : Bytes) : Text := bytes.flatMap fun b => Text.hex 2 b.toNat

structure Signer where
  accessId : Text
  secretKey : Text
  region : Text
  service : Text
  deriving DecidableEq, Repr

def regionOf : Option Text → Text
  | none | some [] => "auto"
  | some region => region

inductive Fault where
  | url (f : Url.Fault)
  | time (f : TimeFault)
  deriving DecidableEq, Repr

def Fault.message : Fault → Text
  | url f => f.message
  | time f => f.message

abbrev Headers := Entries Text

/-- The headers with names in lower case and values as words with one space between them; of several
with one name the last counts. -/
def canonicalHeaders (headers : Headers) : Headers :=
  Entries.putAll [] <| headers.map fun (name, value) =>
    (Text.strip (Text.lower name), Text.joined " " (Text.words value))

/-- The day of a moment, as it stands in dates; the year is not padded. -/
def dayStamp (m : Moment) : Text :=
  Text.numeral m.date.year ++ Text.padded 2 m.date.month ++ Text.padded 2 m.date.day

def timeStamp (m : Moment) : Text :=
  dayStamp m ++ 'T' :: Text.padded 2 m.hour ++ Text.padded 2 m.minute ++ Text.padded 2 m.second ++
    ['Z']

def signingKey (d : Digests) (secretKey day region service : Text) : Bytes :=
  let key := d.keyed (Utf8.encode ("AWS4" ++ secretKey)) (Utf8.encode day)
  let key := d.keyed key (Utf8.encode region)
  let key := d.keyed key (Utf8.encode service)
  d.keyed key (Utf8.encode "aws4_request")

structure CanonicalRequest where
  method : Text
  path : Text
  query : Text
  headers : Headers
  payloadDigest : Text
  deriving DecidableEq, Repr

namespace CanonicalRequest

def names (r : CanonicalRequest) : Text := Text.joined ";" (r.headers.map (·.1))

def text (r : CanonicalRequest) : Text :=
  Text.joined "\n"
    [r.method, r.path, r.query,
      r.headers.flatMap fun (name, value) => name ++ ':' :: value ++ ['\n'],
      r.names, r.payloadDigest]

end CanonicalRequest

def digestHeader : Text := "x-amz-content-sha256"

/-- The headers that are signed: those given, the host and the time, and the digest of the body
unless it is given. -/
def signedHeaders (d : Digests) (host stamp : Text) (headers : Headers) (payload : Bytes) :
    Headers :=
  let signed := Entries.put (canonicalHeaders headers) "host" host
  let signed := Entries.put signed "x-amz-date" stamp
  match Entries.get? signed digestHeader with
  | some _ => signed
  | none => Entries.put signed digestHeader (hexText (d.plain payload))

def canonicalRequest (method : Text) (url : Url) (signed : Headers) : CanonicalRequest :=
  { method := Text.upper method
    path := if url.path.isEmpty then "/" else url.path
    query := Query.canonical url.query
    headers := signed.mergeSort fun a b => Text.le a.1 b.1
    payloadDigest := (Entries.get? signed digestHeader).getD [] }

def scope (s : Signer) (day : Text) : Text :=
  Text.joined "/" [day, s.region, s.service, "aws4_request"]

def algorithm : Text := "AWS4-HMAC-SHA256"

def signature (d : Digests) (s : Signer) (now : Moment) (r : CanonicalRequest) : Text :=
  let day := dayStamp now
  let toSign := Text.joined "\n"
    [algorithm, timeStamp now, scope s day, hexText (d.plain (Utf8.encode r.text))]
  hexText (d.keyed (signingKey d s.secretKey day s.region s.service) (Utf8.encode toSign))

def authorization (d : Digests) (s : Signer) (now : Moment) (r : CanonicalRequest) : Text :=
  algorithm ++ " Credential=" ++ s.accessId ++ '/' :: scope s (dayStamp now) ++
    ", SignedHeaders=" ++ r.names ++ ", Signature=" ++ signature d s now r

/-- What is signed: the moment in UTC, the headers and the canonical form of the request. -/
structure Prepared where
  now : Moment
  headers : Headers
  request : CanonicalRequest
  deriving Repr

def prepare (d : Digests) (method url : Text) (headers : Headers) (payload : Bytes)
    (now : Moment) : Except Fault Prepared := do
  let now ← now.toUtc.mapError .time
  let url ← (Url.split url).mapError .url
  let headers := signedHeaders d url.authority (timeStamp now) headers payload
  return ⟨now, headers, canonicalRequest method url headers⟩

def sign (d : Digests) (s : Signer) (method url : Text) (headers : Headers) (payload : Bytes)
    (now : Moment) : Except Fault Headers := do
  let p ← prepare d method url headers payload now
  return Entries.put p.headers "authorization" (authorization d s p.now p.request)

end ImageFiling.SignatureV4
