import ImageFiling.Number.Basic
import ImageFiling.Text.Entries

/-!
# JSON values

A JSON value, with the members of an object in the order in which they were first written. Answers
of storage services are kept as such values, because nothing is known of their shape beforehand.
-/

namespace ImageFiling

inductive Json where
  | null
  | bool (b : Bool)
  | number (x : Number)
  | text (t : Text)
  | array (items : List Json)
  | object (members : List (Text × Json))

namespace Json

abbrev Members := Entries Json

def ofInt (n : Int) : Json := .number (.int n)

def members? : Json → Option Members
  | .object members => some members
  | _ => none

def member? (value : Json) (name : Text) : Option Json := value.members?.bind fun members => Entries.get? members name

/-- Whether a value counts as present: neither null, false, zero nor empty. -/
def isPresent : Json → Bool
  | .null => false
  | .bool b => b
  | .number x => !x.isZero
  | .text t => !t.isEmpty
  | .array items => !items.isEmpty
  | .object members => !members.isEmpty

/-- Whether a value is a number equal to an integer. -/
def equalsInt (value : Json) (n : Int) : Bool :=
  match value with
  | .number x => x.equals n
  | _ => false

end Json

end ImageFiling
