import ImageFiling.Text.Basic

/-!
# Blanks

White space as Unicode has it, and the blanks at which texts are trimmed and cut into words: white
space and the four information separators.
-/

namespace ImageFiling.Text

def isWhite (c : Char) : Bool :=
  let n := c.toNat
  (9 ≤ n && n ≤ 13) || n == 0x20 || n == 0x85 || n == 0xA0 || n == 0x1680 ||
    (0x2000 ≤ n && n ≤ 0x200A) || n == 0x2028 || n == 0x2029 || n == 0x202F || n == 0x205F ||
    n == 0x3000

/-- White space or one of the separators U+001C to U+001F. -/
def isBlank (c : Char) : Bool := (0x1C ≤ c.toNat && c.toNat ≤ 0x1F) || isWhite c

def strip (t : Text) : Text := trim isBlank t

def words (t : Text) : List Text := (piecesBy isBlank t).filter (!·.isEmpty)

end ImageFiling.Text
