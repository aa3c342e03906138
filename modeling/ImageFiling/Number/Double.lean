import ImageFiling.Text.Numeral

/-!
# Doubles

Double-precision numbers as exact values: a mantissa below 2^53 times a power of two not below
2^-1074. `ofRatio` is the one place where anything is rounded: to the nearest double, a tie to the
even mantissa.
-/

namespace ImageFiling

/-- A double-precision number; a finite one is `± mantissa * 2 ^ exponent`. -/
inductive Double where
  | finite (negative : Bool) (mantissa : Nat) (exponent : Int)
  | infinite (negative : Bool)
  | notANumber
  deriving DecidableEq, Repr

/-- The quotient rounded to the nearest integer, a tie to the even one. -/
def roundHalfEven (num den : Nat) : Nat :=
  let q := num / den
  let r := 2 * (num % den)
  if r > den ∨ (r = den ∧ q % 2 = 1) then q + 1 else q

namespace Double

def minExponent : Int := -1074

def maxExponent : Int := 971

def fullMantissa : Nat := 0x10000000000000

def scaled (base num den : Nat) (power : Int) : Nat × Nat :=
  if power < 0 then (num * base.pow power.natAbs, den) else (num, den * base.pow power.natAbs)

/-- The double nearest to `± num / den`. -/
def ofRatio (negative : Bool) (num den : Nat) : Double :=
  if num = 0 then .finite negative 0 minExponent
  else
    let top : Int := (num.log2 : Int) - den.log2
    let (n, d) := scaled 2 num den top
    let exponent := max minExponent (if n ≥ d then top - 52 else top - 53)
    let (n, d) := scaled 2 num den exponent
    let mantissa := roundHalfEven n d
    let (mantissa, exponent) :=
      if mantissa = 2 * fullMantissa then (fullMantissa, exponent + 1) else (mantissa, exponent)
    if exponent > maxExponent then .infinite negative else .finite negative mantissa exponent

def ofInt (n : Int) : Double := ofRatio (n < 0) n.natAbs 1

/-- The double nearest to `± digits * 10 ^ power`. -/
def ofDecimal (negative : Bool) (digits : Nat) (power : Int) : Double :=
  let size := power + (Text.numeral digits).length
  if digits = 0 ∨ size < -330 then ofRatio negative 0 1
  else if size > 310 then .infinite negative
  else
    let (num, den) := scaled 10 digits 1 (-power)
    ofRatio negative num den

/-- The absolute value of a mantissa and an exponent, as numerator and denominator. -/
def ratio (mantissa : Nat) (exponent : Int) : Nat × Nat := scaled 2 mantissa 1 (-exponent)

def isZero : Double → Bool
  | .finite _ 0 _ => true
  | _ => false

def truncated? : Double → Option Int
  | .finite negative m e =>
    let (num, den) := ratio m e
    some (Text.withSign negative (num / den))
  | _ => none

def isIntegral : Double → Bool
  | .finite _ m e =>
    let (num, den) := ratio m e
    num % den == 0
  | _ => false

def integer? (x : Double) : Option Int := if x.isIntegral then x.truncated? else none

end Double

end ImageFiling
