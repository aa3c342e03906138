import ImageFiling.Proofs.Time.Moment
import Mathlib.Tactic.IntervalCases

/-!
# Instants

The days of the calendar follow each other without a gap, so a day is told by its number
(`Date.eq_of_number_eq`) and found from any other one (`Date.add?_of_number`). Taken to UTC, a moment
is therefore what a clock there shows at its instant, whatever its offset is (`Moment.Shows.toUtc`).
-/

namespace ImageFiling

namespace Date

/-- A day of the calendar. -/
structure IsDay (d : Date) : Prop where
  year : 1 ≤ d.year ∧ d.year ≤ 9999
  month : 1 ≤ d.month ∧ d.month ≤ 12
  day : 1 ≤ d.day ∧ d.day ≤ monthLength d.year d.month

def first : Date := ⟨1, 1, 1⟩

def last : Date := ⟨9999, 12, 31⟩

/-! ### Numbers of days -/

def daysBeforeYear (year : Nat) : Nat :=
  let y := year - 1
  365 * y + y / 4 - y / 100 + y / 400

def daysBeforeMonth (year month : Nat) : Nat :=
  ((List.range (month - 1)).map fun m => monthLength year (m + 1)).foldl (· + ·) 0

theorem number_eq (d : Date) :
    d.number = daysBeforeYear d.year + daysBeforeMonth d.year d.month + d.day := rfl

theorem daysBeforeMonth_succ {month : Nat} (positive : 1 ≤ month) (year : Nat) :
    daysBeforeMonth year (month + 1) = daysBeforeMonth year month + monthLength year month := by
  obtain ⟨m, rfl⟩ : ∃ m, month = m + 1 := ⟨month - 1, by omega⟩
  simp [daysBeforeMonth, List.range_succ]

theorem isLeap_iff (year : Nat) :
    isLeap year = true ↔ year % 4 = 0 ∧ (year % 100 ≠ 0 ∨ year % 400 = 0) := by
  simp [isLeap]

/-- The length of a year, which ends with a December of 31 days. -/
theorem daysBeforeMonth_december (year : Nat) :
    daysBeforeMonth year 12 + 31 = if isLeap year then 366 else 365 := by
  cases leap : isLeap year <;> simp [daysBeforeMonth, List.range_succ, monthLength, leap]

theorem daysBeforeYear_succ {year : Nat} (positive : 1 ≤ year) :
    daysBeforeYear (year + 1) = daysBeforeYear year + (daysBeforeMonth year 12 + 31) := by
  obtain ⟨y, rfl⟩ : ∃ y, year = y + 1 := ⟨year - 1, by omega⟩
  have leap := isLeap_iff (y + 1)
  have fourth : (y + 1) / 4 = y / 4 + if (y + 1) % 4 = 0 then 1 else 0 := by split <;> omega
  have century : (y + 1) / 100 = y / 100 + if (y + 1) % 100 = 0 then 1 else 0 := by split <;> omega
  have era : (y + 1) / 400 = y / 400 + if (y + 1) % 400 = 0 then 1 else 0 := by split <;> omega
  have nested : ((y + 1) % 100 = 0 → (y + 1) % 4 = 0) ∧ ((y + 1) % 400 = 0 → (y + 1) % 100 = 0) := by
    omega
  have fewer : y / 100 ≤ y / 4 := by omega
  rw [daysBeforeMonth_december]
  simp only [daysBeforeYear, Nat.add_sub_cancel, fourth, century, era, leap]
  -- Only the three remainders matter from here on.
  generalize (y + 1) % 4 = r, (y + 1) % 100 = c, (y + 1) % 400 = e at nested
  generalize y / 4 = fours, y / 100 = hundreds, y / 400 = eras at fewer ⊢
  split_ifs <;> omega

theorem day_le_year {d : Date} (isDay : d.IsDay) :
    daysBeforeMonth d.year d.month + d.day ≤ if isLeap d.year then 366 else 365 := by
  obtain ⟨-, ⟨least, greatest⟩, -, inside⟩ := isDay
  generalize d.month = month at least greatest inside ⊢
  cases leap : isLeap d.year <;> interval_cases month <;>
    simp [daysBeforeMonth, List.range_succ, monthLength, leap] at inside ⊢ <;> omega

theorem number_le_last {d : Date} (isDay : d.IsDay) : d.number ≤ last.number := by
  have inYear := day_le_year isDay
  have leap := isLeap_iff d.year
  have greatest : last.number = 3652059 := by decide
  obtain ⟨least, most⟩ := isDay.year
  rw [number_eq, greatest]
  unfold daysBeforeYear
  dsimp only
  split at inYear
  · next longer =>
    have divides := leap.mp longer
    omega
  · omega

theorem first_number_le {d : Date} (isDay : d.IsDay) : first.number ≤ d.number := by
  have least : first.number = 1 := by decide
  have day := isDay.day.1
  rw [least, number_eq]
  omega

/-! ### One day after the other -/

structure Follows (d e : Date) : Prop where
  before : d.IsDay
  after : e.IsDay
  next : d.next? = some e
  previous : e.previous? = some d
  number : e.number = d.number + 1

theorem monthLength_pos (year month : Nat) : 1 ≤ monthLength year month := by
  unfold monthLength
  split
  · split <;> omega
  · split <;> omega

theorem exists_follows {d : Date} (isDay : d.IsDay) (notLast : d ≠ last) : ∃ e, Follows d e := by
  obtain ⟨year, month, day⟩ := d
  obtain ⟨years, months, days⟩ := isDay
  dsimp only at years months days
  by_cases inMonth : day < monthLength year month
  · refine ⟨⟨year, month, day + 1⟩, ⟨years, months, days⟩, ⟨years, months, ?_⟩, ?_, ?_, rfl⟩
    · exact ⟨by simp, inMonth⟩
    · simp [next?, inMonth]
    · have later : 0 < day := days.1
      simp [previous?, later]
  · obtain rfl : day = monthLength year month := by omega
    by_cases inYear : month < 12
    · refine ⟨⟨year, month + 1, 1⟩, ⟨years, months, days⟩, ⟨years, ?_, ?_⟩, ?_, ?_, ?_⟩
      · exact ⟨by simp, inYear⟩
      · exact ⟨Nat.le_refl 1, monthLength_pos _ _⟩
      · simp [next?, inYear]
      · have later : 0 < month := months.1
        simp [previous?, later]
      · rw [number_eq, number_eq]
        dsimp only
        rw [daysBeforeMonth_succ months.1]
        omega
    · obtain rfl : month = 12 := by omega
      have december : monthLength year 12 = 31 := by simp [monthLength]
      have inCalendar : year < 9999 := by
        refine Nat.lt_of_le_of_ne years.2 ?_
        rintro rfl
        exact notLast rfl
      refine ⟨⟨year + 1, 1, 1⟩, ⟨years, months, days⟩, ⟨?_, ?_, ?_⟩, ?_, ?_, ?_⟩
      · exact ⟨by simp, inCalendar⟩
      · exact ⟨Nat.le_refl 1, by simp⟩
      · exact ⟨Nat.le_refl 1, monthLength_pos _ _⟩
      · simp [next?, inCalendar]
      · have later : year + 1 > 1 := by omega
        simp [previous?, later, december]
      · rw [number_eq, number_eq]
        dsimp only
        rw [daysBeforeYear_succ years.1, december]
        show _ + 0 + 1 = _
        omega

theorem exists_followed {e : Date} (isDay : e.IsDay) (notFirst : e ≠ first) : ∃ d, Follows d e := by
  have next {d : Date} (before : d.IsDay) (later : d.next? = some e) : ∃ d, Follows d e := by
    have notLast : d ≠ last := by
      rintro rfl
      cases later
    obtain ⟨e', follows⟩ := exists_follows before notLast
    obtain rfl := Option.some.inj (later.symm.trans follows.next)
    exact ⟨d, follows⟩
  obtain ⟨year, month, day⟩ := e
  obtain ⟨years, months, days⟩ := isDay
  dsimp only at years months days
  by_cases inMonth : 1 < day
  · refine next (d := ⟨year, month, day - 1⟩) ⟨years, months, by dsimp only; omega⟩ ?_
    have inside : day - 1 < monthLength year month := by omega
    have back : day - 1 + 1 = day := by omega
    simp [next?, inside, back]
  · obtain rfl : day = 1 := by omega
    by_cases inYear : 1 < month
    · have before : 1 ≤ month - 1 ∧ month - 1 ≤ 12 := by omega
      refine next (d := ⟨year, month - 1, monthLength year (month - 1)⟩)
        ⟨years, before, monthLength_pos _ _, Nat.le_refl _⟩ ?_
      have inside : month - 1 < 12 := by omega
      have back : month - 1 + 1 = month := by omega
      simp [next?, inside, back]
    · obtain rfl : month = 1 := by omega
      have later : 1 < year := by
        refine Nat.lt_of_le_of_ne years.1 ?_
        rintro rfl
        exact notFirst rfl
      have december : monthLength (year - 1) 12 = 31 := by simp [monthLength]
      refine next (d := ⟨year - 1, 12, 31⟩) ⟨by dsimp only; omega, by simp, ?_⟩ ?_
      · exact ⟨by simp, Nat.le_of_eq december.symm⟩
      · have inside : year - 1 < 9999 := by omega
        have back : year - 1 + 1 = year := by omega
        simp [next?, december, inside, back]

theorem eq_of_number_eq {d e : Date} (isDay : d.IsDay) (isDay' : e.IsDay)
    (same : d.number = e.number) : d = e := by
  induction size : d.number generalizing d e with
  | zero =>
    have day := isDay.day.1
    rw [number_eq] at size
    omega
  | succ n ih =>
    have least : first.number = 1 := by decide
    by_cases isFirst : d = first
    · by_contra other
      have notFirst : e ≠ first := fun isFirst' => other (isFirst.trans isFirst'.symm)
      obtain ⟨p, follows⟩ := exists_followed isDay' notFirst
      have positive := first_number_le follows.before
      rw [isFirst] at same
      have := follows.number
      omega
    · obtain ⟨p, follows⟩ := exists_followed isDay isFirst
      have notFirst : e ≠ first := by
        rintro rfl
        have positive := first_number_le follows.before
        have := follows.number
        omega
      obtain ⟨q, follows'⟩ := exists_followed isDay' notFirst
      have numbers : p.number = q.number ∧ p.number = n := by
        have := follows.number
        have := follows'.number
        omega
      obtain rfl := ih follows.before follows'.before numbers.1 numbers.2
      exact Option.some.inj (follows.next.symm.trans follows'.next)

theorem repeat_next {d e : Date} {n : Nat} (isDay : d.IsDay) (isDay' : e.IsDay)
    (later : e.number = d.number + n) : n.repeat (·.bind next?) (some d) = some e := by
  induction n generalizing e with
  | zero => exact congrArg some (eq_of_number_eq isDay isDay' later.symm)
  | succ n ih =>
    have notFirst : e ≠ first := by
      rintro rfl
      have positive := first_number_le isDay
      omega
    obtain ⟨p, follows⟩ := exists_followed isDay' notFirst
    have number := follows.number
    have before := ih follows.before (by omega)
    show (n.repeat (·.bind next?) (some d)).bind next? = some e
    rw [before, Option.bind_some, follows.next]

theorem repeat_previous {d e : Date} {n : Nat} (isDay : d.IsDay) (isDay' : e.IsDay)
    (earlier : e.number + n = d.number) : n.repeat (·.bind previous?) (some d) = some e := by
  induction n generalizing e with
  | zero => exact congrArg some (eq_of_number_eq isDay isDay' earlier.symm)
  | succ n ih =>
    have notLast : e ≠ last := by
      rintro rfl
      have most := number_le_last isDay
      omega
    obtain ⟨p, follows⟩ := exists_follows isDay' notLast
    have number := follows.number
    have after := ih follows.after (by omega)
    show (n.repeat (·.bind previous?) (some d)).bind previous? = some e
    rw [after, Option.bind_some, follows.previous]

/-- From any day of the calendar each other one is found by the difference of their numbers. -/
theorem add?_of_number {d e : Date} {k : Int} (isDay : d.IsDay) (isDay' : e.IsDay)
    (apart : (e.number : Int) = d.number + k) : d.add? k = some e := by
  cases k with
  | ofNat n =>
    rw [Int.ofNat_eq_natCast] at apart
    exact repeat_next isDay isDay' (by omega)
  | negSucc n => exact repeat_previous isDay isDay' (by omega)

end Date

namespace Moment

/-- A moment, told with its offset, is a reading of the clock at an instant, which is counted in
seconds of UTC. -/
structure Shows (m : Moment) (instant : Int) : Prop where
  isDay : m.date.IsDay
  told : ∃ offset, m.utcOffset = .ok offset ∧
    instant = 86400 * m.date.number + 3600 * m.hour + 60 * m.minute + m.second - offset

/-- What a clock shows in UTC on a day at an instant. -/
def utcReading (day : Date) (instant : Int) (microsecond : Nat) : Moment :=
  let s := (instant.fmod 86400).toNat
  ⟨day, s / 3600, s / 60 % 60, s % 60, microsecond, .ok 0⟩

theorem Shows.toUtc {m : Moment} {instant : Int} {day : Date} (shown : m.Shows instant)
    (isDay : day.IsDay) (onDay : (day.number : Int) = instant.fdiv 86400) :
    m.toUtc = .ok (utcReading day instant m.microsecond) := by
  obtain ⟨isDay', offset, told, same⟩ := shown
  have positive : (0 : Int) ≤ 86400 := by decide
  rw [Int.fdiv_eq_ediv_of_nonneg _ positive] at onDay
  have apart : (day.number : Int) =
      m.date.number + (m.hour * 3600 + m.minute * 60 + m.second - offset : Int).fdiv 86400 := by
    rw [Int.fdiv_eq_ediv_of_nonneg _ positive]
    omega
  have rest : (m.hour * 3600 + m.minute * 60 + m.second - offset : Int).fmod 86400 =
      instant.fmod 86400 := by
    rw [Int.fmod_eq_emod_of_nonneg _ positive, Int.fmod_eq_emod_of_nonneg _ positive]
    omega
  have found := Date.add?_of_number isDay' isDay apart
  simp only [Moment.toUtc, told, bind, Except.bind, found, rest]
  rfl

end Moment

end ImageFiling
