import ImageFiling.Text.Basic

/-!
# Characters and names of XML

Which characters a document may hold, and the names in it: a qualified name has at most one colon,
between a prefix and a local name.
-/

namespace ImageFiling.Xml

def isAllowed (n : Nat) : Bool :=
  n == 9 || n == 10 || n == 13 || (0x20 ≤ n && n < 0xD800) || (0xE000 ≤ n && n < 0xFFFE) ||
    (0x10000 ≤ n && n ≤ 0x10FFFF)

def isSpace (c : Char) : Bool := c == ' ' || c == '\t' || c == '\n' || c == '\r'

def skipSpace (t : Text) : Text := t.dropWhile isSpace

def letterRanges : List (Nat × Nat) :=
  [(0xC0, 0xD6), (0xD8, 0xF6), (0xF8, 0x2FF), (0x370, 0x37D), (0x37F, 0x1FFF), (0x200C, 0x200D),
    (0x2070, 0x218F), (0x2C00, 0x2FEF), (0x3001, 0xD7FF), (0xF900, 0xFDCF), (0xFDF0, 0xFFFD)]

def startsName (c : Char) : Bool :=
  c.isAlpha || c == '_' || letterRanges.any fun r => r.1 ≤ c.toNat && c.toNat ≤ r.2

def isNameChar (c : Char) : Bool :=
  startsName c || c.isDigit || c == '-' || c == '.' || c.toNat == 0xB7 ||
    (0x300 ≤ c.toNat && c.toNat ≤ 0x36F)

def isSimpleName (t : Text) : Bool := t.head?.any startsName && t.all isNameChar

def isQualifiedName (t : Text) : Bool :=
  let parts := Text.pieces ':' t
  parts.length ≤ 2 && parts.all isSimpleName

def readName (t : Text) : Option (Text × Text) :=
  let inName (c : Char) : Bool := isNameChar c || c == ':'
  let name := t.takeWhile inName
  if isQualifiedName name then some (name, t.dropWhile inName) else none

def readSimpleName (t : Text) : Option (Text × Text) :=
  let name := t.takeWhile isNameChar
  if isSimpleName name then some (name, t.dropWhile isNameChar) else none

/-- The prefix and the local name of a qualified name; without a colon the prefix is empty. -/
def splitName (name : Text) : Text × Text :=
  match Text.cut ':' name with
  | (first, some rest) => (first, rest)
  | (whole, none) => ([], whole)

/-! ### What is left is the end of the text -/

theorem skipSpace_suffix (t : Text) : skipSpace t <:+ t := List.dropWhile_suffix isSpace

theorem suffix_of_readName {t name rest : Text} (h : readName t = some (name, rest)) :
    rest <:+ t := by
  dsimp only [readName] at h
  split at h
  · cases h
    exact List.dropWhile_suffix _
  · cases h

theorem suffix_of_readSimpleName {t name rest : Text}
    (h : readSimpleName t = some (name, rest)) : rest <:+ t := by
  dsimp only [readSimpleName] at h
  split at h
  · cases h
    exact List.dropWhile_suffix _
  · cases h

end ImageFiling.Xml
