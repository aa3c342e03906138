import ImageFiling.Mime.Table
import ImageFiling.Text.Blank
import ImageFiling.Text.Case
import ImageFiling.Url.Split

/-!
# Media types of files

The extension for a media type, and the media type that the suffix of a file name stands for.
-/

namespace ImageFiling.Mime

def binary : Text := "application/octet-stream"

/-- Image types whose extension is not left to the table. -/
def imageExtensions : List (Text × Text) :=
  [("image/jpeg", "jpg"), ("image/webp", "webp"), ("image/avif", "avif"), ("image/heic", "heic"),
    ("image/svg+xml", "svg"), ("image/x-icon", "ico")]

def suffix? (type : Text) : Option Text :=
  (suffixTable.find? fun row => row.1.toList == type).bind fun row => row.2.head?.map (·.toList)

def ofSuffix? (suffix : Text) : Option Text :=
  (suffixTable.find? fun row => row.2.any (·.toList == suffix)).map (·.1.toList)

/-- The extension, without dot, of an image of this media type, whose parameters do not matter: that
of a JPEG image without a type, and none for an unknown type. -/
def extension (type : Option Text) : Text :=
  match type with
  | none | some [] => "jpg"
  | some t =>
    let t := Text.lower (Text.strip (Text.cut ';' t).1)
    match imageExtensions.lookup t with
    | some e => e
    | none => ((suffix? t).getD []).dropWhile (· == '.')

/-- A file name and its suffix with the dot; dots at the start of the name begin no suffix. -/
def splitSuffix (name : Text) : Text × Text :=
  let dots := name.takeWhile (· == '.')
  let rest := name.dropWhile (· == '.')
  if rest.contains '.' then
    let suffix := Text.afterLast '.' rest
    (dots ++ rest.take (rest.length - suffix.length - 1), '.' :: suffix)
  else (name, [])

/-- Suffixes that are short for two. -/
def shortSuffixes : List (Text × Text) :=
  [(".svgz", ".svg.gz"), (".tgz", ".tar.gz"), (".taz", ".tar.gz"), (".tz", ".tar.gz"),
    (".tbz2", ".tar.bz2"), (".txz", ".tar.xz")]

def compressions : List Text := [".gz", ".Z", ".bz2", ".xz", ".br"]

/-- Schemes after which a semicolon starts parameters that are no part of the name. -/
def parameterSchemes : List Text :=
  ["ftp", "hdl", "prospero", "http", "https", "shttp", "rtsp", "rtspu", "sip", "sips", "mms",
    "sftp", "tel"]

/-- The media type of a name by its suffix, looked up in lower case, apart from a compression. -/
def ofName? (name : Text) : Option Text :=
  let (base, suffix) := splitSuffix name
  let (base, suffix) := match shortSuffixes.lookup (Text.lower suffix) with
    | some long => splitSuffix (base ++ long)
    | none => (base, suffix)
  ofSuffix? (Text.lower (if compressions.contains suffix then (splitSuffix base).2 else suffix))

/-- The media type of a file by its name. A name that begins like a URL counts without its scheme;
one in the form of inline data is plain text. -/
def ofFile? (name : Text) : Option Text :=
  match Url.split name with
  | .ok url =>
    if url.scheme.length ≤ 1 then ofName? name
    else if url.scheme = "data" then if url.path.contains ',' then some "text/plain" else none
    else if parameterSchemes.contains url.scheme then ofName? (Text.cut ';' url.path).1
    else ofName? url.path
  | .error _ => ofName? name

end ImageFiling.Mime
