import ImageFiling.Text.Base64

/-!
# Faults of loading an image
-/

namespace ImageFiling

inductive ImageFault where
  | notAnImage
  | corrupted (f : Base64.Fault)
  | status (code : Int) (reason url : Text)
  | connection (reason : Text)
  | unsupported (source : Text)
  | notFound (source : Text)
  deriving DecidableEq, Repr

namespace ImageFault

def message : ImageFault → Text
  | notAnImage => "Unsupported data URL, only images are accepted."
  | corrupted f => "Corrupted data URL: " ++ f.message
  | status code reason url =>
    "Image failed to load: " ++ Text.signed code ++
      (if code < 500 then " Client Error: " else " Server Error: ") ++ reason ++ " for url: " ++ url
  | connection reason => "Image failed to load: " ++ reason
  | unsupported source => "Unsupported image format: " ++ source
  | notFound source => "Image file not found: " ++ source

/-- Whether loading may succeed at another time. -/
def isTransient : ImageFault → Bool
  | connection _ => true
  | _ => false

end ImageFault

end ImageFiling
