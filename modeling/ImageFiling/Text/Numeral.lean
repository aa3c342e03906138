import ImageFiling.Text.Blank

/-!
# Numerals

Decimal numerals: writing, padding and reading. A numeral of more than `digitLimit` digits is
not read.
-/

namespace ImageFiling.Text

def digitChar (d : Nat) : Char := Char.ofNat (48 + d)

def numeral (n : Nat) : Text :=
  if n < 10 then [digitChar n] else numeral (n / 10) ++ [digitChar (n % 10)]
termination_by n

def padded (width n : Nat) : Text :=
  List.replicate (width - (numeral n).length) '0' ++ numeral n

def signed : Int → Text
  | .ofNat n => numeral n
  | .negSucc n => '-' :: numeral (n + 1)

def isNumeral (t : Text) : Bool := !t.isEmpty && t.all Char.isDigit

def ofDigits (ds : List Nat) : Nat := ds.foldl (fun n d => 10 * n + d) 0

def value (t : Text) : Nat := ofDigits (t.map fun c => c.toNat - 48)

def digitLimit : Nat := 4300

structure LongNumeral where
  digits : Nat
  deriving DecidableEq, Repr

def LongNumeral.message (f : LongNumeral) : Text :=
  "Exceeds the limit (" ++ numeral digitLimit ++
    " digits) for integer string conversion: value has " ++ numeral f.digits ++
    " digits; use sys.set_int_max_str_digits() to increase the limit"

def readNumeral (t : Text) : Except LongNumeral Nat :=
  if t.length > digitLimit then .error ⟨t.length⟩ else .ok (value t)

/-- The code points of the zeros of every script; the other nine digits follow each. -/
def zeros : List Nat := [
  0x30, 0x660, 0x6F0, 0x7C0, 0x966, 0x9E6, 0xA66, 0xAE6, 0xB66, 0xBE6, 0xC66, 0xCE6, 0xD66,
  0xDE6, 0xE50, 0xED0, 0xF20, 0x1040, 0x1090, 0x17E0, 0x1810, 0x1946, 0x19D0, 0x1A80, 0x1A90,
  0x1B50, 0x1BB0, 0x1C40, 0x1C50, 0xA620, 0xA8D0, 0xA900, 0xA9D0, 0xA9F0, 0xAA50, 0xABF0,
  0xFF10, 0x104A0, 0x10D30, 0x11066, 0x110F0, 0x11136, 0x111D0, 0x112F0, 0x11450, 0x114D0,
  0x11650, 0x116C0, 0x11730, 0x118E0, 0x11950, 0x11C50, 0x11D50, 0x11DA0, 0x16A60, 0x16AC0,
  0x16B50, 0x1D7CE, 0x1D7D8, 0x1D7E2, 0x1D7EC, 0x1D7F6, 0x1E140, 0x1E2F0, 0x1E950, 0x1FBF0]

def digitValue? (c : Char) : Option Nat :=
  (zeros.find? fun z => z ≤ c.toNat && c.toNat ≤ z + 9).map (c.toNat - ·)

/-- The digits of a numeral in which single underscores may stand between digits. -/
def grouped? (digit? : Char → Option Nat) (t : Text) : Option (List Nat) :=
  let groups := pieces '_' t
  if groups.any List.isEmpty then none else groups.flatten.mapM digit?

def splitSign : Text → Bool × Text
  | '-' :: r => (true, r)
  | '+' :: r => (false, r)
  | t => (false, t)

def withSign (negative : Bool) (n : Nat) : Int := if negative then -(n : Int) else n

/-- The integer that a text holds between white space: a sign, then digits of any script with
single underscores inside, at most `digitLimit` of them. -/
def integer? (t : Text) : Option Int := do
  let (negative, rest) := splitSign (trim isWhite t)
  let digits ← grouped? digitValue? rest
  if digits.length > digitLimit then none else some (withSign negative (ofDigits digits))

end ImageFiling.Text
