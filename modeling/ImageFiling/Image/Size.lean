import ImageFiling.Number.Shortest
import ImageFiling.Number.Basic

/-!
# Sizes

A count of bytes in the largest unit, up to terabytes, in which it is not below one.
-/

namespace ImageFiling.Size

/-- The units, each 1024 times the one before. -/
def units : List Text := ["B", "KB", "MB", "GB", "TB"]

inductive Fault where
  | tooLarge
  /-- An integer beyond the doubles, after it is divided. -/
  | tooLargeQuotient
  deriving DecidableEq, Repr

def Fault.message : Fault → Text
  | tooLarge => "int too large to convert to float"
  | tooLargeQuotient => "integer division result too large for a float"

def isLarge : Double → Bool
  | .finite false m e =>
    let (num, den) := Double.ratio m e
    1024 * den ≤ num
  | .infinite false => true
  | _ => false

def divided : Double → Double
  | .finite negative m e =>
    let (num, den) := Double.ratio m e
    Double.ofRatio negative num (1024 * den)
  | x => x

/-- The text of a number in the first of the units, or in a larger one. -/
def inUnits (x : Double) : List Text → Text
  | [] => x.oneDecimal
  | [unit] => x.oneDecimal ++ ' ' :: unit
  | unit :: larger :: rest =>
    if isLarge x then inUnits (divided x) (larger :: rest) else x.oneDecimal ++ ' ' :: unit

def finite (fault : Fault) (x : Double) (units : List Text) : Except Fault Text :=
  match x with
  | .infinite _ => .error fault
  | x => .ok (inUnits x units)

/-- The text of a size; none and zero are not available. -/
def text : Option Number → Except Fault Text
  | none => .ok "N/A"
  | some x =>
    if x.isZero then .ok "N/A"
    else match x with
      | .double x => .ok (inUnits x units)
      | .int n =>
        if n < 1024 then finite .tooLarge (Double.ofInt n) units
        else finite .tooLargeQuotient (Double.ofRatio false n.natAbs 1024) (units.drop 1)

end ImageFiling.Size
