import ImageFiling.Json.Basic
import ImageFiling.Text.Quoted

/-!
# JSON values in messages

How a value reads inside a message: names for the constants, quoted texts, and brackets and braces
around the parts with a comma and a space between them. A text that is the whole value is not
quoted.
-/

namespace ImageFiling.Json

def boolSpelling (b : Bool) : Text := if b then "True" else "False"

mutual

def spelled : Json → Text
  | .null => "None"
  | .bool b => boolSpelling b
  | .number x => x.text
  | .text t => t.quoted
  | .array items => '[' :: spelledItems items ++ [']']
  | .object members => '\x7b' :: spelledMembers members ++ ['\x7d']

def spelledItems : List Json → Text
  | [] => []
  | [v] => v.spelled
  | v :: rest => v.spelled ++ ", " ++ spelledItems rest

def spelledMembers : List (Text × Json) → Text
  | [] => []
  | [(name, v)] => name.quoted ++ ": " ++ v.spelled
  | (name, v) :: rest => name.quoted ++ ": " ++ v.spelled ++ ", " ++ spelledMembers rest

end

def display : Json → Text
  | .text t => t
  | v => v.spelled

end ImageFiling.Json
