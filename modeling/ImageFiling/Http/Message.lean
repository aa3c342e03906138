import ImageFiling.Json.Basic
import ImageFiling.Text.Case
import ImageFiling.Text.Utf8

/-!
# Requests and replies

What is handed to the library that sends requests, and what comes back from it. The library is taken
as it is: it may encode an address or refuse a header before anything goes over the wire, so that to
send a request here means to hand it over, with its address and headers as they stand.
-/

namespace ImageFiling.Http

structure FilePart where
  field : Text
  fileName : Text
  content : Bytes
  contentType : Option Text
  deriving DecidableEq, Repr

inductive Payload where
  | parameters (values : Json.Members)
  | form (fields : Json.Members)
  | upload (fields : Json.Members) (file : FilePart)
  /-- Headers and a body, if there is one. -/
  | body (headers : Entries Text) (content : Option Bytes)
  | headers (headers : Entries Text)

/-- A request. Its address is a text, unless a service has named another value as the address. -/
structure Request where
  method : Text
  address : Json
  payload : Payload

/-- A reply. Its body is given in the three forms in which it can be read. -/
structure Response where
  status : Int
  reason : Text
  headers : Entries Text
  json : Except Text Json
  text : Text
  body : Bytes

/-- What comes of a request: a connection error, a response, or an end that the library documents for
no request. A request with a header outside Latin-1 ends so, and a response with a value that is
nested too deeply, as soon as the value is read. -/
inductive Reply where
  | refused (reason : Text)
  | response (r : Response)
  | raised (reason : Text)

namespace Response

def isOk (r : Response) : Bool := r.status < 400 || 600 ≤ r.status

/-- The value of a header, whose name is compared without regard to case; of several the last
counts. -/
def header? (r : Response) (name : Text) : Option Text :=
  (r.headers.reverse.find? fun h => Text.lower h.1 = Text.lower name).map (·.2)

end Response

end ImageFiling.Http
