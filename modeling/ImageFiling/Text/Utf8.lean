import ImageFiling.Text.Basic

/-!
# UTF-8

Texts as bytes and back. The decoder goes through the bytes once; it answers a character, or
`none` for every longest run of bytes that starts a character and does not complete it, so that a
strict and a forgiving reading are two views of one decoding.
-/

namespace ImageFiling

abbrev Bytes := List UInt8

namespace Utf8

def continuation (v : Nat) : UInt8 := UInt8.ofNat (0x80 + v % 64)

def encodeChar (c : Char) : Bytes :=
  let v := c.toNat
  if v < 0x80 then [UInt8.ofNat v]
  else if v < 0x800 then [UInt8.ofNat (0xC0 + v / 64), continuation v]
  else if v < 0x10000 then [UInt8.ofNat (0xE0 + v / 4096), continuation (v / 64), continuation v]
  else [UInt8.ofNat (0xF0 + v / 262144), continuation (v / 4096), continuation (v / 64), continuation v]

def encode (t : Text) : Bytes := t.flatMap encodeChar

/-- A character begun: the bits read, how many bytes are still owed after the next one, and the
least and greatest value of the next one. -/
structure Pending where
  bits : Nat
  owed : Nat
  low : Nat
  high : Nat

/-- What a byte does between characters: it is one, it begins one, or it is neither. -/
inductive Lead where
  | char (c : Char)
  | start (p : Pending)
  | stray

def lead (b : UInt8) : Lead :=
  let n := b.toNat
  if n < 0x80 then .char (Char.ofNat n)
  else if 0xC2 ≤ n ∧ n ≤ 0xDF then .start ⟨n - 0xC0, 0, 0x80, 0xBF⟩
  else if n = 0xE0 then .start ⟨0, 1, 0xA0, 0xBF⟩
  else if n = 0xED then .start ⟨0xD, 1, 0x80, 0x9F⟩
  else if 0xE1 ≤ n ∧ n ≤ 0xEF then .start ⟨n - 0xE0, 1, 0x80, 0xBF⟩
  else if n = 0xF0 then .start ⟨0, 2, 0x90, 0xBF⟩
  else if 0xF1 ≤ n ∧ n ≤ 0xF3 then .start ⟨n - 0xF0, 2, 0x80, 0xBF⟩
  else if n = 0xF4 then .start ⟨4, 2, 0x80, 0x8F⟩
  else .stray

def afterLead (b : UInt8) : List (Option Char) × Option Pending :=
  match lead b with
  | .char c => ([some c], none)
  | .start p => ([], some p)
  | .stray => ([none], none)

/-- The characters read and the state left after a byte inside a character; a byte that does not
belong to it ends it and is read anew. -/
def afterPending (p : Pending) (b : UInt8) : List (Option Char) × Option Pending :=
  if p.low ≤ b.toNat ∧ b.toNat ≤ p.high then
    let bits := p.bits * 64 + (b.toNat - 0x80)
    match p.owed with
    | 0 => ([some (Char.ofNat bits)], none)
    | owed + 1 => ([], some ⟨bits, owed, 0x80, 0xBF⟩)
  else
    let (read, state) := afterLead b
    (none :: read, state)

/-- The characters of the bytes, from a state on; `none` stands for an invalid run. -/
def decodeFrom : Option Pending → Bytes → List (Option Char)
  | none, [] => []
  | some _, [] => [none]
  | none, b :: r => (afterLead b).1 ++ decodeFrom (afterLead b).2 r
  | some p, b :: r => (afterPending p b).1 ++ decodeFrom (afterPending p b).2 r

def decode? (bytes : Bytes) : Option Text := (decodeFrom none bytes).mapM id

def decodeForgiving (bytes : Bytes) : Text :=
  (decodeFrom none bytes).map (·.getD '\uFFFD')

end Utf8

end ImageFiling
