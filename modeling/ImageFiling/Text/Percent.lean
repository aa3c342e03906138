import ImageFiling.Text.Utf8

/-!
# Percent encoding

Bytes that may not stand in a part of a URL are written as `%` and two hexadecimal digits. Reading
is forgiving: a `%` without two digits after it stands for itself.
-/

namespace ImageFiling.Percent

def isUnreserved (c : Char) : Bool :=
  c.isAlphanum || c == '-' || c == '.' || c == '_' || c == '~'

def upperHexDigit (d : Nat) : Char := if d < 10 then Char.ofNat (48 + d) else Char.ofNat (55 + d)

/-- A byte as it stands in a URL, where the ASCII characters of `safe` are left as they are. -/
def encodeByte (safe : Char → Bool) (b : UInt8) : Text :=
  let c := Char.ofNat b.toNat
  if b.toNat < 128 ∧ safe c then [c]
  else ['%', upperHexDigit (b.toNat / 16), upperHexDigit (b.toNat % 16)]

def encodeBytes (safe : Char → Bool) (bytes : Bytes) : Text := bytes.flatMap (encodeByte safe)

def encode (safe : Char → Bool) (t : Text) : Text := encodeBytes safe (Utf8.encode t)

def hexValue? (c : Char) : Option Nat :=
  if c.isDigit then some (c.toNat - 48)
  else if 'a' ≤ c ∧ c ≤ 'f' then some (c.toNat - 87)
  else if 'A' ≤ c ∧ c ≤ 'F' then some (c.toNat - 55)
  else none

def byte? (high low : Char) : Option UInt8 := do
  let h ← hexValue? high
  let l ← hexValue? low
  some (UInt8.ofNat (16 * h + l))

/-- The bytes of a text in which escapes stand for bytes and all else for its UTF-8. -/
def decodeBytes : Text → Bytes
  | '%' :: high :: low :: r =>
    match byte? high low with
    | some b => b :: decodeBytes r
    | none => Utf8.encodeChar '%' ++ decodeBytes (high :: low :: r)
  | c :: r => Utf8.encodeChar c ++ decodeBytes r
  | [] => []

/-- The text that an escaped text stands for, with U+FFFD for every invalid run of bytes. -/
def decode (t : Text) : Text := Utf8.decodeForgiving (decodeBytes t)

end ImageFiling.Percent
