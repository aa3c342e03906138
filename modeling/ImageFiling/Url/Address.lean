import ImageFiling.Text.Basic

/-!
# IP addresses

The texts that are IP addresses: four decimal octets, or eight groups of hexadecimal digits, of
which one run may be left out and the last two may be written as octets.
-/

namespace ImageFiling.Address

/-- A decimal number up to 255 without leading zeros. -/
def isOctet (t : Text) : Bool :=
  !t.isEmpty && t.all Char.isDigit && t.length ≤ 3 && (t == ['0'] || t.head? != some '0') &&
    t.foldl (fun n c => 10 * n + (c.toNat - 48)) 0 ≤ 255

def isV4 (t : Text) : Bool :=
  let octets := t.pieces '.'
  octets.length == 4 && octets.all isOctet

def isHexDigit (c : Char) : Bool := c.isDigit || ('a' ≤ c && c ≤ 'f') || ('A' ≤ c && c ≤ 'F')

def isGroup (t : Text) : Bool := !t.isEmpty && t.length ≤ 4 && t.all isHexDigit

/-- The groups of an address between its colons, a last part of four octets counting as two. -/
def groups? (t : Text) : Option (List Text) :=
  let parts := t.pieces ':'
  match parts.getLast? with
  | some last =>
    if last.contains '.' then
      if isV4 last then some (parts.dropLast ++ [['0'], ['0']]) else none
    else some parts
  | none => none

/-- The groups on one side of a left-out run; an empty side is one empty part. -/
def side? (parts : List Text) : Option Nat :=
  if parts == [[]] then some 0 else if parts.all isGroup then some parts.length else none

/-- Whether the parts between colons are eight groups, at least one of them left out if two colons
meet. -/
def areGroups (parts : List Text) : Bool :=
  match (parts.drop 1).dropLast.idxOf? [] with
  | none => parts.length == 8 && parts.all isGroup
  | some i =>
    match side? (parts.take (i + 1)), side? (parts.drop (i + 2)) with
    | some m, some n => m + n ≤ 7
    | _, _ => false

/-- Eight groups, and possibly a zone after a percent sign. -/
def isV6 (t : Text) : Bool :=
  let (address, zone) := t.cut '%'
  zone.all (fun z => !z.isEmpty && !z.contains '%' && !z.contains '/') &&
    3 ≤ (address.pieces ':').length && (groups? address).any areGroups

end ImageFiling.Address
