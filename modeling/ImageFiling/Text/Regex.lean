import ImageFiling.Text.Basic

/-!
# Regular expressions

An expression is tried at the start of a text, one way after the other: a repetition takes as many
rounds as it can and gives up the last of them first. What is asked of the text after a match
decides which of the ways counts. A text is searched from left to right, and what was part of a
match is not searched again.
-/

namespace ImageFiling

inductive Regex where
  /-- One character of a class. -/
  | one (p : Char → Bool)
  | seq (e f : Regex)
  | many (e : Regex)

namespace Regex

def atLeastOne (e : Regex) : Regex := seq e (many e)

/-- The first answer to what is left after at most `n` rounds. -/
def rounds (round : (Text → Option α) → Text → Option α) (ask : Text → Option α) :
    Nat → Text → Option α
  | 0, t => ask t
  | n + 1, t => round (rounds round ask n) t <|> ask t

/-- The first answer to what is left after a match at the start of a text. -/
def run : Regex → (Text → Option α) → Text → Option α
  | one _, _, [] => none
  | one p, ask, c :: r => if p c then ask r else none
  | seq e f, ask, t => run e (run f ask) t
  -- a round that takes nothing gains nothing, so there are as many rounds as characters at most
  | many e, ask, t => rounds (run e) ask t.length t

/-- Whether some part of a text is a match. -/
def occursIn (e : Regex) : Text → Bool
  | [] => (run e some []).isSome
  | c :: r => (run e some (c :: r)).isSome || occursIn e r

/-- What a match that reaches the end of a line may leave of the text. -/
def isLineEnd (t : Text) : Bool := t.isEmpty || t == ['\n']

/-- Whether a match from the start of a text reaches its end, or the line feed at its end. -/
def spans (e : Regex) (t : Text) : Bool :=
  (run e (fun r => if isLineEnd r then some () else none) t).isSome

/-- The match at the start of a text, unless it is empty, and the text after it. -/
def start? (e : Regex) (t : Text) : Option (Text × Text) :=
  ((run e some t).filter (·.length < t.length)).map fun r => (t.take (t.length - r.length), r)

/-- Part of a text that was searched. -/
inductive Part where
  | between (c : Char)
  | found (t : Text)
  deriving DecidableEq, Repr

theorem length_of_start? {e : Regex} {t found rest : Text} (h : start? e t = some (found, rest)) :
    rest.length < t.length := by
  obtain ⟨r, kept, pair⟩ := Option.map_eq_some_iff.mp h
  cases pair
  exact of_decide_eq_true (Option.filter_eq_some_iff.mp kept).2

/-- The parts of a text: the matches in it, and the characters between them. -/
def parts (e : Regex) : Text → List Part
  | [] => []
  | c :: r =>
    match h : start? e (c :: r) with
    | some (found, rest) =>
      have := Nat.le_of_lt_succ (length_of_start? h)
      .found found :: parts e rest
    | none => .between c :: parts e r
termination_by t => t.length

def Part.found? : Part → Option Text
  | between _ => none
  | found t => some t

/-- The matches in a text. -/
def findAll (e : Regex) (t : Text) : List Text := (parts e t).filterMap Part.found?

/-- The text of parts with the matches replaced one after the other, up to the first failure. -/
def fill (f : Text → Except ε Text) : List Part → Except ε Text
  | [] => .ok []
  | .between c :: rest => (fill f rest).map (c :: ·)
  | .found t :: rest => do
    let new ← f t
    let others ← fill f rest
    .ok (new ++ others)

/-- A text with every match replaced; what replaces a match is not searched. -/
def replace (e : Regex) (f : Text → Except ε Text) (t : Text) : Except ε Text :=
  fill f (parts e t)

end Regex

end ImageFiling
