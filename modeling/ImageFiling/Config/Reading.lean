import ImageFiling.Json.Basic
import ImageFiling.Text.Blank

/-!
# Reading settings from JSON values

A reader takes a value to what it means or to all its issues, each with the place where it stands.
Scalars are read leniently: numbers and truth values may be written as texts. `Checked.both` puts
readers together without losing the issues of either.
-/

namespace ImageFiling.Config

inductive IssueKind where
  | missing
  | notText
  | emptyText
  | notBool
  | unreadableBool
  | notInteger
  | unreadableInteger
  | longInteger
  | fractional
  | notFinite
  | notOffered
  | notList
  | notObject
  | noTag
  | unknownTag
  | notTagged
  | directoryNotRooted
  | blankKey
  deriving DecidableEq, Repr

def IssueKind.message : IssueKind → Text
  | missing => "a value is required"
  | notText => "the value is not a text"
  | emptyText => "the text is empty"
  | notBool => "the value is not a truth value"
  | unreadableBool => "the value cannot be read as a truth value"
  | notInteger => "the value is not an integer"
  | unreadableInteger => "the text cannot be read as an integer"
  | longInteger => "the number has too many digits"
  | fractional => "the number has a fraction"
  | notFinite => "the number is not finite"
  | notOffered => "the value is not one of those offered"
  | notList => "the value is not a list"
  | notObject => "the value is not an object"
  | noTag => "the object does not say its type"
  | unknownTag => "the type is unknown"
  | notTagged => "the value is not an object with a type"
  | directoryNotRooted => "Value error, directory must start with /"
  | blankKey => "Value error, FileLu API key is mandatory"

/-- A step into a value: to the member of a name, or to the item at a place. -/
inductive Step where
  | member (name : Text)
  | item (place : Nat)
  deriving DecidableEq, Repr

def Step.text : Step → Text
  | member name => name
  | item place => Text.numeral place

structure Issue where
  kind : IssueKind
  place : List Step := []
  deriving DecidableEq, Repr

def Issue.text (i : Issue) : Text :=
  Text.joined "." (i.place.map Step.text) ++ " - " ++ i.kind.message

/-- What a value means, or its issues. -/
abbrev Checked (α : Type) := Except (List Issue) α

def Read.fault (kind : IssueKind) : Checked α := .error [⟨kind, []⟩]

namespace Checked

/-- What was read one step into a value. -/
def under (step : Step) (x : Checked α) : Checked α :=
  x.mapError (·.map fun i => { i with place := step :: i.place })

/-- Two values, or the issues of both. -/
def both : Checked α → Checked β → Checked (α × β)
  | .ok a, .ok b => .ok (a, b)
  | .ok _, .error f => .error f
  | .error e, .ok _ => .error e
  | .error e, .error f => .error (e ++ f)

def items (read : Json → Checked α) : Nat → List Json → Checked (List α)
  | _, [] => .ok []
  | n, v :: rest =>
    (both ((read v).under (.item n)) (items read (n + 1) rest)).map fun (a, as) => a :: as

end Checked

namespace Read

/-! ### Scalars -/

def text : Json → Checked Text
  | .text t => .ok t
  | _ => fault .notText

/-- What `read` reads, or nothing for null. -/
def nullable (read : Json → Checked α) : Json → Checked (Option α)
  | .null => .ok none
  | v => (read v).map some

/-- Whether an integer fits into 64 bits. -/
def fits (n : Int) : Bool := -0x8000000000000000 ≤ n && n < 0x8000000000000000

def boolOfInt (n : Int) : Checked Bool :=
  if n = 0 then .ok false
  else if n = 1 then .ok true
  else fault (if fits n then .unreadableBool else .notBool)

def boolWords : List (Text × Bool) :=
  [("0", false), ("off", false), ("f", false), ("false", false), ("n", false), ("no", false),
    ("1", true), ("on", true), ("t", true), ("true", true), ("y", true), ("yes", true)]

def bool : Json → Checked Bool
  | .bool b => .ok b
  | .number (.int n) => boolOfInt n
  | .number (.double x) => (x.integer?.map boolOfInt).getD (fault .notBool)
  | .text t =>
    match boolWords.lookup (t.map Char.toLower) with
    | some b => .ok b
    | none => fault .unreadableBool
  | _ => fault .notBool

def asciiDigit? (c : Char) : Option Nat := if c.isDigit then some (c.toNat - 48) else none

/-- The digits of a text before a point with zeros only after it. -/
def wholePart? (t : Text) : Option Text :=
  match Text.cut '.' t with
  | (whole, none) => some whole
  | (whole, some zeros) => if !zeros.isEmpty && zeros.all (· == '0') then some whole else none

def integerOfText (t : Text) : Checked Int :=
  let (negative, rest) := Text.splitSign (Text.trim Text.isWhite t)
  match (wholePart? rest).bind (Text.grouped? asciiDigit?) with
  | some digits =>
    if digits.length > Text.digitLimit then fault .longInteger
    else .ok (Text.withSign negative (Text.ofDigits digits))
  | none => fault .unreadableInteger

def integer : Json → Checked Int
  | .bool b => .ok (if b then 1 else 0)
  | .number (.int n) => .ok n
  | .number (.double x) =>
    match x.truncated? with
    | none => fault .notFinite
    | some n =>
      if !x.isIntegral then fault .fractional
      else if fits n then .ok n else fault .longInteger
  | .text t => integerOfText t
  | _ => fault .notInteger

/-! ### Members of objects -/

/-- A name that a member may go by, and the one that counts if both are there. -/
structure FieldName where
  name : Text
  other : Text := name
  deriving DecidableEq, Repr

/-- The member of an object, with the name by which it goes. -/
def FieldName.find? (f : FieldName) (members : Json.Members) : Option (Text × Json) :=
  ((Entries.get? members f.name).map (f.name, ·)) <|> ((Entries.get? members f.other).map (f.other, ·))

def required (members : Json.Members) (f : FieldName) (read : Json → Checked α) : Checked α :=
  match f.find? members with
  | some (name, v) => (read v).under (.member name)
  | none => (fault .missing).under (.member f.name)

def optional (members : Json.Members) (f : FieldName) (fallback : α) (read : Json → Checked α) :
    Checked α :=
  match f.find? members with
  | some (name, v) => (read v).under (.member name)
  | none => .ok fallback

def object : Json → Checked Json.Members
  | .object members => .ok members
  | _ => fault .notObject

def list (read : Json → Checked α) : Json → Checked (List α)
  | .array items => Checked.items read 0 items
  | _ => fault .notList

end Read

end ImageFiling.Config
