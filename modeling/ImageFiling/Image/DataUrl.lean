import ImageFiling.Image.Fault
import ImageFiling.Text.Case
import ImageFiling.Text.Percent

/-!
# Images

An image is content with what is known of it. A data URL holds one in itself: a media type,
parameters, and the content in base64 or percent-encoded.
-/

namespace ImageFiling

/-- An image, with its media type and file name where they are known. -/
structure Image where
  content : Bytes
  mime : Option Text
  fileName : Option Text
  deriving DecidableEq, Repr

namespace DataUrl

/-- The parts of a data URL of an image: the media type as written, the parameters with the
semicolon before them, and the data. -/
structure Parts where
  mime : Text
  parameters : Text
  data : Text
  deriving DecidableEq, Repr

def afterStart? (t : Text) : Option Text := Text.afterLetters? "data:image/" t

def parts? (t : Text) : Option Parts := do
  let rest ← afterStart? t
  let inType (c : Char) : Bool := c != ';' && c != ','
  let subtype := rest.takeWhile inType
  if subtype.isEmpty then none
  match Text.cut ',' (rest.dropWhile inType) with
  | (parameters, some data) =>
    some ⟨(t.drop 5).take (6 + subtype.length), parameters, data⟩
  | _ => none

def isBase64 (parameters : Text) : Bool := Text.includes ";base64" (Text.lower parameters)

def Parts.content (p : Parts) : Except ImageFault Bytes :=
  if isBase64 p.parameters then (Base64.decode p.data).mapError .corrupted
  else .ok (Percent.decodeBytes p.data)

def image (t : Text) : Except ImageFault Image :=
  match parts? t with
  | none => .error .notAnImage
  | some p => p.content.map fun content => ⟨content, some (Text.lower p.mime), none⟩

end DataUrl

end ImageFiling
