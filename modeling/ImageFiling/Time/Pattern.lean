import ImageFiling.Time.Moment

/-!
# Date patterns

A date pattern is a text in which runs of certain letters stand for parts of a moment, and text in
square brackets stands for itself. `Pattern.parse` cuts a pattern into its parts from left to
right, taking the longest run that a letter allows.
-/

namespace ImageFiling

inductive DateField where
  | yearOfCentury | year
  | month | monthPadded | monthShort | monthName
  | day | dayPadded
  | weekday | weekdayTwo | weekdayShort | weekdayName
  | hour | hourPadded | halfHour | halfHourPadded | half | halfCapital
  | minute | minutePadded | second | secondPadded | millisecond
  | offset | offsetPlain
  deriving DecidableEq, Repr

inductive PatternPart where
  | text (t : Text)
  | field (f : DateField)
  deriving DecidableEq, Repr

namespace DateField

def monthNames : List Text :=
  ["January", "February", "March", "April", "May", "June", "July", "August", "September",
    "October", "November", "December"]

def weekdayNames : List Text :=
  ["Sunday", "Monday", "Tuesday", "Wednesday", "Thursday", "Friday", "Saturday"]

/-- The field that a run of a letter names. -/
def ofRun? : Char → Nat → Option DateField
  | 'Y', 2 => some yearOfCentury
  | 'Y', 4 => some year
  | 'M', 1 => some month
  | 'M', 2 => some monthPadded
  | 'M', 3 => some monthShort
  | 'M', 4 => some monthName
  | 'D', 1 => some day
  | 'D', 2 => some dayPadded
  | 'd', 1 => some weekday
  | 'd', 2 => some weekdayTwo
  | 'd', 3 => some weekdayShort
  | 'd', 4 => some weekdayName
  | 'H', 1 => some hour
  | 'H', 2 => some hourPadded
  | 'h', 1 => some halfHour
  | 'h', 2 => some halfHourPadded
  | 'a', 1 => some half
  | 'A', 1 => some halfCapital
  | 'm', 1 => some minute
  | 'm', 2 => some minutePadded
  | 's', 1 => some second
  | 's', 2 => some secondPadded
  | 'S', 3 => some millisecond
  | 'Z', 1 => some offset
  | 'Z', 2 => some offsetPlain
  | _, _ => none

def longestRun (c : Char) : Nat :=
  if c = 'Y' ∨ c = 'M' ∨ c = 'd' then 4
  else if c = 'S' then 3
  else if c = 'D' ∨ c = 'H' ∨ c = 'h' ∨ c = 'm' ∨ c = 's' ∨ c = 'Z' then 2
  else 1

def two (n : Nat) : Text := Text.padded 2 n

/-- The offset from UTC in hours and minutes, rounded down to the minute. -/
def offsetText (separator : Text) (seconds : Int) : Text :=
  let minutes := seconds.fdiv 60
  (if minutes < 0 then '-' else '+') :: two (minutes.natAbs / 60) ++ separator ++
    two (minutes.natAbs % 60)

def onDial (hour : Nat) : Nat := if hour % 12 = 0 then 12 else hour % 12

def render (m : Moment) : DateField → Except TimeFault Text
  | yearOfCentury => .ok (two (m.date.year % 100))
  | year => .ok (Text.padded 4 m.date.year)
  | month => .ok (Text.numeral m.date.month)
  | monthPadded => .ok (two m.date.month)
  | monthShort => .ok ((monthNames.getD (m.date.month - 1) []).take 3)
  | monthName => .ok (monthNames.getD (m.date.month - 1) [])
  | day => .ok (Text.numeral m.date.day)
  | dayPadded => .ok (two m.date.day)
  | weekday => .ok (Text.numeral m.date.weekday)
  | weekdayTwo => .ok ((weekdayNames.getD m.date.weekday []).take 2)
  | weekdayShort => .ok ((weekdayNames.getD m.date.weekday []).take 3)
  | weekdayName => .ok (weekdayNames.getD m.date.weekday [])
  | hour => .ok (Text.numeral m.hour)
  | hourPadded => .ok (two m.hour)
  | halfHour => .ok (Text.numeral (onDial m.hour))
  | halfHourPadded => .ok (two (onDial m.hour))
  | half => .ok (if m.hour < 12 then "am" else "pm")
  | halfCapital => .ok (if m.hour < 12 then "AM" else "PM")
  | minute => .ok (Text.numeral m.minute)
  | minutePadded => .ok (two m.minute)
  | second => .ok (Text.numeral m.second)
  | secondPadded => .ok (two m.second)
  | millisecond => .ok (Text.padded 3 (m.microsecond / 1000))
  | offset => m.utcOffset.map (offsetText ":")
  | offsetPlain => m.utcOffset.map (offsetText [])

end DateField

namespace Pattern

/-- Text in brackets after the opening one, and the text after the closing one. -/
def bracketed? (t : Text) : Option (Text × Text) :=
  match t.cut ']' with
  | (inner, some rest) => if inner.isEmpty then none else some (inner, rest)
  | _ => none

def ofRun (c : Char) (n : Nat) : PatternPart :=
  match DateField.ofRun? c n with
  | some f => .field f
  | none => .text (List.replicate n c)

/-- How many characters the first part takes of a text that starts with `c`, where `r` follows. A
letter that names a field only in its longest run is a part of its own otherwise. -/
def runLength (c : Char) (r : Text) : Nat :=
  let n := min (DateField.longestRun c) (((c :: r).takeWhile (· == c)).length)
  if c = 'S' ∧ n < 3 then 1 else n

/-- The first part of a text that starts with `c`, where `r` follows, and the text after it. -/
def first (c : Char) (r : Text) : PatternPart × Text :=
  match if c = '[' then bracketed? r else none with
  | some (inner, rest) => (.text inner, rest)
  | none => (ofRun c (runLength c r), r.drop (runLength c r - 1))

theorem length_first (c : Char) (r : Text) : (first c r).2.length ≤ r.length := by
  unfold first
  split
  · next inner rest h =>
    split at h
    · unfold bracketed? Text.cut at h
      split at h
      · next i s hs =>
        split at h
        · exact absurd h (by simp)
        · obtain ⟨rfl, rfl⟩ := Prod.mk.inj (Option.some.inj h)
          have hd := (Prod.mk.inj hs).2
          have hl := (List.dropWhile_sublist (· != ']') (l := r)).length_le
          cases e : r.dropWhile (· != ']') with
          | nil => simp [e] at hd
          | cons a l =>
            rw [e] at hd hl
            simp only [List.tail?_cons, Option.some.injEq] at hd
            subst hd
            simp only [List.length_cons] at hl
            exact Nat.le_of_succ_le hl
      · exact absurd h (by simp)
    · exact absurd h (by simp)
  · simp

def parse : Text → List PatternPart
  | [] => []
  | c :: r => (first c r).1 :: parse (first c r).2
termination_by t => t.length
decreasing_by
  have := length_first c r
  simp only [List.length_cons]
  omega

def renderPart (m : Moment) : PatternPart → Except TimeFault Text
  | .text t => .ok t
  | .field f => f.render m

def renderParts (m : Moment) : List PatternPart → Except TimeFault Text
  | [] => .ok []
  | p :: rest => do
    let t ← renderPart m p
    let u ← renderParts m rest
    .ok (t ++ u)

end Pattern

def Moment.format (m : Moment) (pattern : Text) : Except TimeFault Text :=
  Pattern.renderParts m (Pattern.parse pattern)

def Pattern.timestamp : Text := "YYYYMMDDHHmmss"

def Pattern.calendarDay : Text := "YYYYMMDD"

end ImageFiling
