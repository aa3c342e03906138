import ImageFiling.Image.DataUrl
import ImageFiling.Session.Basic

/-!
# Downloads

An image from the web. Its file name is the one that the server proposes, its media type the one of
the content, without parameters.
-/

namespace ImageFiling.Download

variable {σ : Type}

/-- The file name in a text that goes on to the end, before a quotation mark and a line feed that
may end it. -/
def nameToEnd? (t : Text) : Option Text :=
  let body := if t.getLast? = some '\n' then t.dropLast else t
  let name := if body.length ≥ 2 ∧ body.getLast? = some '"' then body.dropLast else body
  if name.isEmpty || name.contains '\n' then none else some name

/-- The file name after the name of its parameter. A quotation mark before it is no part of it. -/
def nameAfter? (t : Text) : Option Text :=
  match t with
  | '"' :: r => (nameToEnd? r).or (nameToEnd? t)
  | t => nameToEnd? t

/-- The file name that a disposition proposes. -/
def proposedName? : Text → Option Text
  | [] => none
  | c :: r =>
    ((Text.after? "filename=" (c :: r)).bind nameAfter?).or (proposedName? r)

def ofResponse (r : Http.Response) : Image :=
  { content := r.body
    mime := match r.header? "Content-Type" with
      | some (c :: t) => some (Text.strip (Text.cut ';' (c :: t)).1)
      | _ => none
    fileName := (r.header? "Content-Disposition").bind proposedName? }

/-- The headers of a download: the page counts as the one that refers to the image. -/
def headers : Option Text → Entries Text
  | some (c :: page) => [("Referer", c :: page)]
  | _ => []

def image (url : Text) (page : Option Text) : Session σ Image := do
  Session.note .info ("Downloading image " ++ url ++ "...")
  match ← Session.send ⟨"GET", .text url, .headers (headers page)⟩ with
  | .refused reason => Session.fail (.image (.connection reason))
  | .raised reason => Session.fail (.raised reason)
  | .response r =>
    if r.isOk then return ofResponse r
    else Session.fail (.image (.status r.status r.reason url))

end ImageFiling.Download
