import ImageFiling.Number.Shortest

/-!
# Numbers

A number of a JSON document: an integer of any size or a double. The two kinds compare by value
and differ in how they are written.
-/

namespace ImageFiling

inductive Number where
  | int (n : Int)
  | double (x : Double)
  deriving DecidableEq, Repr

namespace Number

def isZero : Number → Bool
  | .int n => n == 0
  | .double x => x.isZero

def equals (x : Number) (n : Int) : Bool :=
  match x with
  | .int m => m == n
  | .double y => y.integer? == some n

def text : Number → Text
  | .int n => Text.signed n
  | .double x => x.text

end Number

end ImageFiling
