import ImageFiling.Config.Provider
import ImageFiling.Naming.Template

/-!
# Configurations

A configuration names a storage provider and the naming templates, and keeps settings of the
browser side, so that a file that is read and written again loses nothing. `Config.ofJson` reads one
and `Config.toJson` writes one.
-/

namespace ImageFiling

inductive ImageFormat where
  | jpeg
  | png
  | webp
  deriving DecidableEq, Repr

def ImageFormat.mime : ImageFormat → Text
  | jpeg => "image/jpeg"
  | png => "image/png"
  | webp => "image/webp"

structure Config where
  provider : Option Provider := none
  password : Option Text := none
  templates : List Template := []
  sidebarMode : Int := 0
  notificationLevel : Int := 4
  imageFormat : ImageFormat := .jpeg
  deriving DecidableEq, Repr

namespace Config.Read

def urlPattern (v : Json) : Checked { t : Text // t ≠ [] } := do
  let t ← text v
  if h : t ≠ [] then .ok ⟨t, h⟩ else fault .emptyText

/-- Whether a directory may stand in a template: if it is not empty, it starts with a slash. -/
def isRooted (d : Text) : Bool := d.head?.all (· == '/')

def directory (v : Json) : Checked { d : Option Text // d.all isRooted = true } := do
  let d ← nullable text v
  if h : d.all isRooted = true then .ok ⟨d, h⟩ else fault .directoryNotRooted

def template (v : Json) : Checked Template := do
  let members ← object v
  ((required members ⟨"url", "url_pattern"⟩ urlPattern).both
    ((optional members ⟨"directory", "directory"⟩ ⟨none, rfl⟩ directory).both
      ((optional members ⟨"fileName", "file_name"⟩ none (nullable text)).both
        ((optional members ⟨"description", "description"⟩ none (nullable text)).both
          (optional members ⟨"encryption", "encryption"⟩ false bool))))).map
    fun (url, directory, fileName, description, encryption) =>
      { url := url.1, directory := directory.1, fileName, description, encryption
        url_ne_nil := url.2, directory_rooted := directory.2 }

def templates : Json → Checked (List Template)
  | .null => .ok []
  | v => list template v

def imageFormat (v : Json) : Checked ImageFormat :=
  match v with
  | .text t =>
    if t = ImageFormat.jpeg.mime then .ok .jpeg
    else if t = ImageFormat.png.mime then .ok .png
    else if t = ImageFormat.webp.mime then .ok .webp
    else fault .notOffered
  | _ => fault .notOffered

end Config.Read

namespace Config

open Read in
def ofJson (v : Json) : Checked Config := do
  let members ← object v
  ((optional members ⟨"provider", "provider"⟩ none (nullable Read.provider)).both
    ((optional members ⟨"wcipherPassword", "wcipher_password"⟩ none (nullable text)).both
      ((optional members ⟨"templates", "templates"⟩ [] Read.templates).both
        ((optional members ⟨"sidebarMode", "sidebar_mode"⟩ 0 integer).both
          ((optional members ⟨"notificationLevel", "notification_level"⟩ 4 integer).both
            (optional members ⟨"imageFormat", "image_format"⟩ .jpeg Read.imageFormat)))))).map
    fun (provider, password, templates, sidebarMode, notificationLevel, imageFormat) =>
      { provider, password, templates, sidebarMode, notificationLevel, imageFormat }

end Config

def Template.toJson (t : Template) : Json :=
  .object [("url", .text t.url), ("directory", .ofText? t.directory),
    ("fileName", .ofText? t.fileName), ("description", .ofText? t.description),
    ("encryption", .bool t.encryption)]

namespace Config

def toJson (c : Config) : Json :=
  .object [("provider", (c.provider.map Provider.toJson).getD .null),
    ("wcipherPassword", .ofText? c.password), ("templates", .array (c.templates.map Template.toJson)),
    ("sidebarMode", .ofInt c.sidebarMode), ("notificationLevel", .ofInt c.notificationLevel),
    ("imageFormat", .text c.imageFormat.mime)]

/-- The settings that hold where a file says nothing. -/
def defaults : Json.Members :=
  [("sidebarMode", .ofInt 0), ("notificationLevel", .ofInt 4), ("imageFormat", .text "image/jpeg")]

/-- The members of an object set over the defaults; any other value changes nothing. -/
def merge (defaults : Json.Members) (overrides : Json) : Json.Members :=
  match overrides with
  | .object members => Entries.putAll defaults members
  | _ => defaults

end Config

end ImageFiling
