import ImageFiling.Number.Double

/-!
# Shortest decimals

The fewest decimal digits that read back as a given double, and of the decimals with that many
digits the nearest one. The search goes up from one digit and looks at the two neighbours of the
number among the decimals with so many digits.
-/

namespace ImageFiling.Double

def leading (num den : Nat) : Int :=
  if num ≥ den then (Text.numeral (num / den)).length - 1
  else -((Text.numeral ((den - 1) / num)).length : Int)

/-- The decimals `digits * 10 ^ power` that are tried for a number: bounds and number have the
common denominator `den`, and the bounds themselves read back if `closed`. -/
structure Interval where
  low : Nat
  value : Nat
  high : Nat
  den : Nat
  closed : Bool

/-- The reals that are rounded to `mantissa * 2 ^ exponent`. -/
def interval (mantissa : Nat) (exponent : Int) : Interval :=
  let (unit, den) := scaled 2 1 1 (2 - exponent)
  let below := if mantissa = fullMantissa ∧ exponent > minExponent then 1 else 2
  { low := (4 * mantissa - below) * unit
    value := 4 * mantissa * unit
    high := (4 * mantissa + 2) * unit
    den := den
    closed := mantissa % 2 == 0 }

def Interval.holds (i : Interval) (digits : Nat) (power : Int) : Bool :=
  let (num, den) := scaled 10 digits 1 (-power)
  let x := num * i.den
  if i.closed then i.low * den ≤ x && x ≤ i.high * den
  else i.low * den < x && x < i.high * den

/-- The nearest decimal with the last place `power` that the interval holds. -/
def Interval.atPower? (i : Interval) (power : Int) : Option Nat :=
  let (num, den) := scaled 10 i.value i.den power
  let floor := num / den
  match i.holds floor power, i.holds (floor + 1) power with
  | true, true => some (roundHalfEven num den)
  | true, false => some floor
  | false, true => some (floor + 1)
  | false, false => none

/-- The digits and the power of ten of the shortest decimal; seventeen digits are always enough. -/
def shortest (mantissa : Nat) (exponent : Int) : Nat × Int :=
  let i := interval mantissa exponent
  let top := leading i.value i.den
  let tried := (List.range 17).findSome? fun (n : Nat) =>
    (i.atPower? (top - n)).map fun digits => (digits, top - n)
  tried.getD (0, 0)

def significant (n : Nat) : Text := Text.trimEnd (· == '0') (Text.numeral n)

/-- A decimal point in digits that stand for `0.digits * 10 ^ point`. -/
def positional (digits : Text) (point : Int) : Text :=
  if point ≤ 0 then "0." ++ List.replicate point.natAbs '0' ++ digits
  else if point ≥ digits.length then
    digits ++ List.replicate (point.natAbs - digits.length) '0' ++ ".0"
  else digits.take point.natAbs ++ '.' :: digits.drop point.natAbs

/-- Digits in scientific notation, with at least two digits in the exponent. -/
def scientific (digits : Text) (point : Int) : Text :=
  let power := point - 1
  let mark := if power < 0 then '-' else '+'
  let fraction := if digits.length > 1 then '.' :: digits.drop 1 else []
  digits.take 1 ++ fraction ++ 'e' :: mark :: Text.padded 2 power.natAbs

/-- The text of a double: shortest digits, positional from 0.0001 up to but not including 10^16. -/
def text : Double → Text
  | .notANumber => "nan"
  | .infinite negative => (if negative then "-" else "") ++ "inf"
  | .finite negative m e =>
    let sign : Text := if negative then "-" else ""
    if m = 0 then sign ++ "0.0"
    else
      let (digits, power) := shortest m e
      let point := (Text.numeral digits).length + power
      let digits := significant digits
      sign ++ if -4 < point ∧ point ≤ 16 then positional digits point
        else scientific digits point

/-- The text of `num / den` with one place after the point, a tie going to the even digit. -/
def tenths (num den : Nat) : Text :=
  let n := roundHalfEven (10 * num) den
  Text.numeral (n / 10) ++ '.' :: Text.numeral (n % 10)

def oneDecimal : Double → Text
  | .notANumber => "nan"
  | .infinite negative => (if negative then "-" else "") ++ "inf"
  | .finite negative m e =>
    let (num, den) := ratio m e
    (if negative then "-" else "") ++ tenths num den

end ImageFiling.Double
