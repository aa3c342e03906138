import ImageFiling.Text.Numeral
import ImageFiling.Text.Utf8

/-!
# Base64

Three bytes in four characters of six bits each. Reading passes over every character outside the
alphabet and stops at the padding that completes a quad.
-/

namespace ImageFiling.Base64

def sextetChar (v : Nat) : Char :=
  if v < 26 then Char.ofNat (65 + v)
  else if v < 52 then Char.ofNat (71 + v)
  else if v < 62 then Char.ofNat (v - 4)
  else if v = 62 then '+' else '/'

def sextet? (c : Char) : Option Nat :=
  if 'A' ≤ c ∧ c ≤ 'Z' then some (c.toNat - 65)
  else if 'a' ≤ c ∧ c ≤ 'z' then some (c.toNat - 71)
  else if c.isDigit then some (c.toNat + 4)
  else if c = '+' then some 62
  else if c = '/' then some 63
  else none

def encode : Bytes → Text
  | [] => []
  | [a] => [sextetChar (a.toNat / 4), sextetChar (a.toNat % 4 * 16), '=', '=']
  | [a, b] =>
    [sextetChar (a.toNat / 4), sextetChar (a.toNat % 4 * 16 + b.toNat / 16),
      sextetChar (b.toNat % 16 * 4), '=']
  | a :: b :: c :: r =>
    sextetChar (a.toNat / 4) :: sextetChar (a.toNat % 4 * 16 + b.toNat / 16) ::
      sextetChar (b.toNat % 16 * 4 + c.toNat / 64) :: sextetChar (c.toNat % 64) :: encode r

inductive Fault where
  | notAscii
  /-- The text ends one character after a quad; `count` characters of the alphabet were read. -/
  | oneOver (count : Nat)
  | padding
  deriving DecidableEq, Repr

def Fault.message : Fault → Text
  | .notAscii => "string argument should contain only ASCII characters"
  | .oneOver count =>
    "Invalid base64-encoded string: number of data characters (" ++ Text.numeral count ++
      ") cannot be 1 more than a multiple of 4"
  | .padding => "Incorrect padding"

def ofQuad : List Nat → Bytes
  | [a, b] => [UInt8.ofNat (a * 4 + b / 16)]
  | [a, b, c] => [UInt8.ofNat (a * 4 + b / 16), UInt8.ofNat (b % 16 * 16 + c / 4)]
  | [a, b, c, d] =>
    [UInt8.ofNat (a * 4 + b / 16), UInt8.ofNat (b % 16 * 16 + c / 4), UInt8.ofNat (c % 4 * 64 + d)]
  | _ => []

/-- The bytes of a text from inside a quad: the sextets read of it, the padding characters seen
since the last of them, and how many characters of the alphabet were read. -/
def decodeFrom (quad : List Nat) (pads count : Nat) : Text → Except Fault Bytes
  | [] =>
    match quad.length with
    | 0 => .ok []
    | 1 => .error (.oneOver count)
    | _ => .error .padding
  | c :: r =>
    if c = '=' then
      if quad.length < 2 then decodeFrom quad pads count r
      else if quad.length + (pads + 1) ≥ 4 then .ok (ofQuad quad)
      else decodeFrom quad (pads + 1) count r
    else match sextet? c with
      | none => decodeFrom quad pads count r
      | some v =>
        if quad.length = 3 then
          (decodeFrom [] 0 (count + 1) r).map (ofQuad (quad ++ [v]) ++ ·)
        else decodeFrom (quad ++ [v]) 0 (count + 1) r

def decode (t : Text) : Except Fault Bytes :=
  if t.all (·.toNat < 128) then decodeFrom [] 0 0 t else .error .notAscii

end ImageFiling.Base64
