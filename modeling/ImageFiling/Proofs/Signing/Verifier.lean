import ImageFiling.Http.Message
import ImageFiling.Signing.SignatureV4

/-!
# A verifier of signed requests

The other side of signing. A verifier holds the secret key, and knows its region and service. It
takes a request as it was sent and derives everything anew: the path and the query are decoded and
encoded again, the headers are put in order, and the body is hashed. It trusts nothing that the
authorization says but compares it with what it found.
-/

namespace ImageFiling

open SignatureV4 (hexText)

structure Verifier where
  digests : SignatureV4.Digests
  secretKey : Text
  region : Text
  service : Text

namespace Verifier

/-- A request as it arrives, the names of its headers in lower case. -/
structure Arrival where
  method : Text
  path : Text
  query : Text
  headers : Entries Text
  body : Bytes

def Arrival.made (method target : Text) (headers : Entries Text) (content : Option Bytes) : Arrival :=
  ⟨method, (Text.cut '?' target).1, (Text.cut '?' target).2.getD [],
    headers.map fun h => (Text.lower h.1, h.2), content.getD []⟩

/-- How a request to an `https` address arrives; no body arrives as an empty one. -/
def arrival? (r : Http.Request) : Option Arrival :=
  match r.address, r.payload with
  | .text url, .body headers content =>
    (Text.after? "https://" url).map fun rest =>
      .made r.method (rest.dropWhile (· != '/')) headers content
  | _, _ => none

/-! ### Normal forms -/

def renewed (kept : Char → Bool) (t : Text) : Text :=
  Percent.encodeBytes kept (Percent.decodeBytes t)

def pathForm (path : Text) : Text := renewed (fun c => Percent.isUnreserved c || c == '/') path

def queryForm (query : Text) : Text :=
  let pairs := ((query.pieces '&').filter (!·.isEmpty)).map fun piece =>
    (renewed Percent.isUnreserved (Text.cut '=' piece).1,
      renewed Percent.isUnreserved ((Text.cut '=' piece).2.getD []))
  Text.joined "&" ((pairs.mergeSort Query.pairLe).map fun pair => pair.1 ++ '=' :: pair.2)

/-- The headers that a signature has to cover, in order. -/
def coveredHeaders (headers : Entries Text) : Entries Text :=
  ((headers.filter (·.1 ≠ "authorization".toList)).map fun h =>
    (h.1, Text.joined " " (Text.words h.2))).mergeSort fun a b => Text.le a.1 b.1

def coveredNames (headers : Entries Text) : Text :=
  Text.joined ";" ((coveredHeaders headers).map (·.1))

def Arrival.text (a : Arrival) (digest : Text) : Text :=
  Text.joined "\n"
    (a.method :: pathForm a.path :: queryForm a.query ::
      ((coveredHeaders a.headers).map (fun h => h.1 ++ ':' :: h.2) ++
        [[], coveredNames a.headers, digest]))

/-! ### The authorization -/

structure Claimed where
  day : Text
  names : Text
  signature : Text
  deriving DecidableEq, Repr

/-- Reads an authorization from its end on: neither a signature nor names hold commas, and the scope
ends with the region and the service. -/
def readAuthorization (v : Verifier) (t : Text) : Option Claimed :=
  match (t.pieces ',').reverse with
  | signature :: names :: credential => do
    let signature ← Text.after? " Signature=" signature
    let names ← Text.after? " SignedHeaders=" names
    let credential ← Text.after? "AWS4-HMAC-SHA256 Credential="
      (Text.joined "," credential.reverse)
    let owner ← List.isSuffixOf?
      ('/' :: Text.joined "/" [v.region, v.service, "aws4_request"]) credential
    some ⟨Text.afterLast '/' owner, names, signature⟩
  | _ => none

def signature (v : Verifier) (day stamp text : Text) : Text :=
  let scope : List Text := [day, v.region, v.service, "aws4_request"]
  let key := scope.foldl (fun key part => v.digests.keyed key (Utf8.encode part))
    (Utf8.encode ("AWS4" ++ v.secretKey))
  let toSign := Text.joined "\n"
    ["AWS4-HMAC-SHA256", stamp, Text.joined "/" scope, hexText (v.digests.plain (Utf8.encode text))]
  hexText (v.digests.keyed key (Utf8.encode toSign))

/-- Whether an arrival bears out what its authorization claims, sent at this time and with this
digest of its body. -/
def bearsOut (v : Verifier) (a : Arrival) (stamp digest : Text) (claimed : Claimed) : Bool :=
  claimed.day == stamp.take 8 &&
    claimed.names == coveredNames a.headers &&
    digest == hexText (v.digests.plain a.body) &&
    claimed.signature == v.signature claimed.day stamp (a.text (hexText (v.digests.plain a.body)))

def accepts (v : Verifier) (r : Http.Request) : Bool :=
  (do
    let a ← arrival? r
    let authorization ← Entries.get? a.headers "authorization"
    let claimed ← v.readAuthorization authorization
    let stamp ← Entries.get? a.headers "x-amz-date"
    let digest ← Entries.get? a.headers "x-amz-content-sha256"
    some (v.bearsOut a stamp digest claimed)).getD false

end Verifier

end ImageFiling
