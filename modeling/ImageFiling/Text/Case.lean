import ImageFiling.Text.Basic
import ImageFiling.Text.CaseTable

/-!
# Letter case

Full lower-case and upper-case mappings. The lower case of capital sigma depends on its place: at
the end of a word it is the final form.
-/

namespace ImageFiling.Text

/-- Whether a sigma between these texts, the first of them reversed, ends a word: the nearest
character before it that counts is cased, the nearest after it is not. -/
def endsWord (before after : Text) : Bool :=
  let meets (t : Text) : Bool :=
    (t.dropWhile fun c => inRanges caseIgnorable c.toNat).head?.any
      fun c => inRanges casedRanges c.toNat
  meets before && !meets after

def lowerChar (c : Char) : Text :=
  if c.toNat < 128 then [c.toLower]
  else if c = 'İ' then ['i', '\u0307']
  else [Char.ofNat ((applyRuns lowerRuns c.toNat).getD c.toNat)]

/-- The lower case of a text that follows the reversed text `before`. -/
def lowerAfter (before : Text) : Text → Text
  | [] => []
  | c :: r =>
    (if c = 'Σ' then [if endsWord before r then 'ς' else 'σ'] else lowerChar c) ++
      lowerAfter (c :: before) r

def lower (t : Text) : Text := lowerAfter [] t

def upperChar (c : Char) : Text :=
  if c.toNat < 128 then [c.toUpper]
  else match upperExpansions.lookup c.toNat with
    | some ns => ns.map Char.ofNat
    | none => [Char.ofNat ((applyRuns upperRuns c.toNat).getD c.toNat)]

def upper (t : Text) : Text := t.flatMap upperChar

/-- Whether a character is the lower-case ASCII letter `l` in some case, where dotted and dotless i
count as `i` and the long s as `s`. -/
def isLetter (l c : Char) : Bool :=
  c.toLower == l || (l == 'i' && (c == 'İ' || c == 'ı')) || (l == 's' && c == 'ſ')

def afterLetters? : Text → Text → Option Text
  | [], t => some t
  | _ :: _, [] => none
  | l :: ls, c :: t => if isLetter l c then afterLetters? ls t else none

end ImageFiling.Text
