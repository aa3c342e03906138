import ImageFiling.Image.Download
import ImageFiling.Mime.Basic

/-!
# Sources of images

A source is a URL of the web, a data URL or the path of a file.
-/

namespace ImageFiling.Source

variable {σ : Type}

def isWeb (source : Text) : Bool :=
  (Text.afterLetters? "http" source).any fun r =>
    (Text.after? "://" r).isSome || (Text.afterLetters? "s://" r).isSome

def isOtherUrl (source : Text) : Bool :=
  Text.includes "://" source || (Text.after? "data:" (Text.lower source)).isSome

def fileImage (files : Files) (source : Text) : Session σ Image := do
  let path := FilePath.parse source
  match ← Session.lift .file (files.content? path) with
  | some content => return ⟨content, Mime.ofFile? path.name, some path.name⟩
  | none => Session.fail (.image (.notFound source))

/-- The image of a source; a page may refer to it. -/
def image (files : Files) (source : Text) (page : Option Text) : Session σ Image :=
  if (DataUrl.afterStart? source).isSome then Session.lift .image (DataUrl.image source)
  else if isWeb source then Download.image source page
  else if isOtherUrl source then Session.fail (.image (.unsupported source))
  else fileImage files source

end ImageFiling.Source
