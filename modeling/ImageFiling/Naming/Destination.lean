import ImageFiling.Mime.Basic
import ImageFiling.Naming.Acceptance
import ImageFiling.Naming.Glob

/-!
# Destinations

Where an image of a page goes. The first template whose URL pattern matches the page decides;
directory and file name each have a default of their own for pages without a template and templates
without the pattern.
-/

namespace ImageFiling

structure Destination where
  isMatched : Bool
  directory : Text
  fileName : Text
  extension : Text
  description : Option Text
  encryption : Bool
  deriving DecidableEq, Repr

namespace Naming

def findTemplate? (templates : List Template) (url : Text) : Option (Template × Nat) :=
  templates.zipIdx.find? fun t => Glob.accepts t.1.url url

/-- The parts of the page's URL, which has to be absolute. -/
def Context.absolute (c : Context) : Except NamingFault Url := do
  let parts ← c.parts
  if parts.isAbsolute then return parts else .error (.notAbsolute c.url)

/-- The text of a pattern, if there is one that is not empty. -/
def filled (c : Context) (pattern : Option Text) : Except NamingFault Text :=
  match pattern with
  | some (x :: t) => substitute c (x :: t)
  | _ => .ok []

/-- The directory of a pattern; the host's own directory where that is empty. -/
def directoryOf (c : Context) (parts : Url) (pattern : Option Text) : Except NamingFault Text := do
  match ← filled { c with field := .directory } pattern with
  | [] => return "/WebImageCategorizer/" ++ parts.host
  | d => return d

def fileNameOf (c : Context) (pattern : Option Text) : Except NamingFault Text := do
  match ← filled { c with field := .fileName } pattern with
  | [] => Parameter.formatted c.now Pattern.timestamp
  | n => return n

/-- The description of a pattern, if there is one that is not empty. -/
def descriptionOf (c : Context) (pattern : Option Text) : Except NamingFault (Option Text) :=
  match pattern with
  | some (x :: t) => (substitute { c with field := .description } (x :: t)).map some
  | _ => .ok none

def dotted (extension : Text) : Text := if extension.isEmpty then [] else '.' :: extension

/-- Where an image of a MIME type on a page goes. The field of the context does not matter. -/
def destination (templates : List Template) (c : Context) (mime : Option Text) :
    Except NamingFault Destination := do
  let parts ← c.absolute
  let extension := dotted (Mime.extension mime)
  match findTemplate? templates c.url with
  | some (t, _) =>
    let directory ← directoryOf c parts t.directory
    let fileName ← fileNameOf c t.fileName
    let description ← descriptionOf c t.description
    return ⟨true, directory, fileName, extension, description, t.encryption⟩
  | none =>
    let directory ← directoryOf c parts none
    let fileName ← fileNameOf c none
    return ⟨false, directory, fileName, extension, none, false⟩

def sampleTitle : Text := "Sample-Page-Title"

/-- What an accepted directory or file name pattern becomes for a page. -/
def preview (field : TemplateField) (pattern url : Text) (now : Moment) :
    Except NamingFault Text := do
  if field = .description then .error .noPreview
  match ← (patternFault? field pattern).mapError .longPathNumber with
  | some f => .error (.pattern f)
  | none =>
    let c : Context := ⟨url, sampleTitle, now, field⟩
    let parts ← c.absolute
    if field = .directory then directoryOf c parts (some pattern)
    else fileNameOf c (some pattern)

end Naming

end ImageFiling
