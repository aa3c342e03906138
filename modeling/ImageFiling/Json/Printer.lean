import ImageFiling.Json.Basic
import ImageFiling.Text.Quoted

/-!
# Writing JSON

The compact text of a value, in ASCII: every other character is escaped by its UTF-16 units.
-/

namespace ImageFiling.Json

def unitEscape (n : Nat) : Text := "\\u" ++ Text.hex 4 n

def writtenChar (c : Char) : Text :=
  let n := c.toNat
  if c = '"' ∨ c = '\\' then ['\\', c]
  else if 0x20 ≤ n ∧ n < 0x7F then [c]
  else if n < 0x10000 then unitEscape n
  else unitEscape (0xD800 + (n - 0x10000) / 0x400) ++ unitEscape (0xDC00 + (n - 0x10000) % 0x400)

def writtenString (t : Text) : Text := '"' :: t.flatMap writtenChar ++ ['"']

def writtenNumber : Number → Text
  | .int n => Text.signed n
  | .double .notANumber => "NaN"
  | .double (.infinite negative) => if negative then "-Infinity" else "Infinity"
  | .double x => x.text

mutual

def written : Json → Text
  | .null => "null"
  | .bool b => if b then "true" else "false"
  | .number x => writtenNumber x
  | .text t => writtenString t
  | .array items => '[' :: writtenItems items ++ [']']
  | .object members => '\x7b' :: writtenMembers members ++ ['\x7d']

def writtenItems : List Json → Text
  | [] => []
  | [v] => v.written
  | v :: rest => v.written ++ ',' :: writtenItems rest

def writtenMembers : List (Text × Json) → Text
  | [] => []
  | [(name, v)] => writtenString name ++ ':' :: v.written
  | (name, v) :: rest => writtenString name ++ ':' :: v.written ++ ',' :: writtenMembers rest

end

end ImageFiling.Json
