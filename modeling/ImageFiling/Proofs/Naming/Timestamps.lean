import ImageFiling.Proofs.Naming.DatedNames
import ImageFiling.Proofs.Naming.Destination
import ImageFiling.Proofs.Text.Numerals

/-!
# Timestamps in order

Files that no pattern names are named after the time. Such names are in the order of the times at
which they were given, and differ unless the times agree to the second (`timestamps_in_order`).
-/

namespace ImageFiling

open DateField (two)

theorem Pattern.parse_calendarDay :
    parse calendarDay = [.field .year, .field .monthPadded, .field .dayPadded] := by
  decide +kernel

namespace Moment

/-- What a timestamp shows of a moment, the longest unit first. -/
def readings (m : Moment) : List Nat :=
  [m.date.year, m.date.month, m.date.day, m.hour, m.minute, m.second]

/-- The moments differ to the second, and this one has the smaller reading where they first do. -/
def Before (a b : Moment) : Prop := List.Lex (· < ·) a.readings b.readings

instance (a b : Moment) : Decidable (a.Before b) :=
  inferInstanceAs (Decidable (List.Lex (· < ·) a.readings b.readings))

/-- A moment within the calendar, whose readings fit into their places. -/
structure Dated (m : Moment) : Prop where
  valid : m.Valid
  year : m.date.year ≤ 9999

variable {m a b : Moment}

theorem Dated.fits (dated : m.Dated) : m.date.month < 100 ∧ m.date.day < 100 ∧ m.hour < 100 ∧
    m.minute < 100 ∧ m.second < 100 := by
  have days := monthLength_le m.date.year m.date.month
  obtain ⟨⟨month, day, hour, minute, second⟩, -⟩ := dated
  omega

theorem Dated.lengths (dated : m.Dated) :
    (Text.padded 4 m.date.year).length = 4 ∧ (two m.date.month).length = 2 ∧
      (two m.date.day).length = 2 ∧ (two m.hour).length = 2 ∧ (two m.minute).length = 2 ∧
      (two m.second).length = 2 := by
  obtain ⟨month, day, hour, minute, second⟩ := dated.fits
  have pair {n : Nat} (small : n < 100) : (two n).length = 2 := Text.length_padded_two small
  exact ⟨Text.length_padded (k := 3) (Nat.lt_succ_of_le dated.year), pair month, pair day, pair hour,
    pair minute, pair second⟩

theorem Dated.value_stamp (dated : m.Dated) : Text.value m.stamp =
    ((((m.date.year * 100 + m.date.month) * 100 + m.date.day) * 100 + m.hour) * 100 + m.minute) *
      100 + m.second := by
  obtain ⟨-, month, day, hour, minute, second⟩ := dated.lengths
  simp only [stamp, List.flatten_cons, List.flatten_nil, List.append_nil, Text.value_append,
    List.length_append, month, day, hour, minute, second]
  simp only [two, Text.value_padded]
  ring

theorem Dated.format_calendarDay (dated : m.Dated) :
    m.format Pattern.calendarDay = .ok (m.stamp.take 8) := by
  obtain ⟨year, month, day, -⟩ := dated.lengths
  have front : (Text.padded 4 m.date.year ++ (two m.date.month ++ two m.date.day)).length = 8 := by
    simp only [List.length_append, year, month, day]
  have whole : m.stamp = (Text.padded 4 m.date.year ++ (two m.date.month ++ two m.date.day)) ++
      [two m.hour, two m.minute, two m.second].flatten := by
    simp [stamp]
  rw [format, Pattern.parse_calendarDay, whole, List.take_left' front]
  change Except.ok _ = Except.ok _
  simp

/-- The values of two timestamps are in the order of the moments. -/
theorem before_iff (dated_a : a.Dated) (dated_b : b.Dated) :
    a.Before b ↔ Text.value a.stamp < Text.value b.stamp := by
  rw [dated_a.value_stamp, dated_b.value_stamp]
  have fits_a := dated_a.fits
  have fits_b := dated_b.fits
  simp only [Before, readings, List.cons_lex_cons_iff, List.not_lex_nil, and_false, or_false]
  omega

theorem le_stamp_iff (dated_a : a.Dated) (dated_b : b.Dated) :
    Text.le a.stamp b.stamp = true ↔ ¬ b.Before a := by
  have same : a.stamp.length = b.stamp.length :=
    (dated_a.valid.length_stamp dated_a.year).trans (dated_b.valid.length_stamp dated_b.year).symm
  rw [before_iff dated_b dated_a, Nat.not_lt]
  exact Text.le_iff_value_le same (fun _ => isDigit_of_mem_stamp) fun _ => isDigit_of_mem_stamp

theorem stamp_eq_iff (dated_a : a.Dated) (dated_b : b.Dated) :
    a.stamp = b.stamp ↔ a.readings = b.readings := by
  constructor
  · intro same
    have values := congrArg Text.value same
    rw [dated_a.value_stamp, dated_b.value_stamp] at values
    have fits_a := dated_a.fits
    have fits_b := dated_b.fits
    simp only [readings, List.cons.injEq, and_true]
    omega
  · intro same
    simp only [readings, List.cons.injEq, and_true] at same
    simp only [stamp, same]

end Moment

namespace Naming

/-- The text that stands for a moment: that of the parameter of the time, which begins with that of
the day, and the name of every file that no pattern names. -/
structure NamedAfter (m : Moment) (t : Text) : Prop where
  now : ∀ c parts, c.now = m → Url.split c.url = .ok parts → resolve c Parameter.now.token = .ok t
  today : ∀ c parts, c.now = m → Url.split c.url = .ok parts →
    resolve c Parameter.today.token = .ok (t.take 8)
  placed : ∀ c parts mime, c.now = m → c.absolute = .ok parts →
    ∃ d, destination [] c mime = .ok d ∧ d.fileName = t
  unnamed : ∀ templates c mime d, c.now = m →
    (∀ pattern ∈ patternFor? templates c.url .fileName,
      substitute { c with field := .fileName } pattern = .ok []) →
    destination templates c mime = .ok d → d.fileName = t
  length : t.length = 14
  digits : ∀ x ∈ t, x.isDigit = true

theorem namedAfter_stamp {m : Moment} (dated : m.Dated) : NamedAfter m m.stamp where
  now := by
    rintro c parts rfl page
    rw [Parameter.resolve_dated page rfl (by decide)]
    exact mapError_eq_ok.mpr c.now.format_timestamp
  today := by
    rintro c parts rfl page
    rw [Parameter.resolve_dated page rfl (by decide)]
    exact mapError_eq_ok.mpr dated.format_calendarDay
  placed := by
    rintro c parts mime rfl absolute
    exact ⟨_, destination_nil absolute mime, rfl⟩
  unnamed := by
    rintro templates c mime d rfl empty placed
    obtain ⟨_, -, arranged⟩ := destination_arranged placed
    have source := arranged.fileName
    cases pattern : patternFor? templates c.url .fileName with
    | none =>
      rw [pattern] at source
      exact source
    | some p =>
      rw [pattern] at source
      obtain ⟨t, filled, named⟩ := source
      cases (empty p pattern).symm.trans filled
      exact named
  length := dated.valid.length_stamp dated.year
  digits := fun _ => Moment.isDigit_of_mem_stamp

/-- Files that are named after the time are in the order of the times, and have one name only if the
times agree to the second. -/
theorem timestamps_in_order {a b : Moment} (dated_a : a.Dated) (dated_b : b.Dated) :
    ∃ s t, NamedAfter a s ∧ NamedAfter b t ∧ (Text.le s t = true ↔ ¬ b.Before a) ∧
      (s = t ↔ a.readings = b.readings) :=
  ⟨a.stamp, b.stamp, namedAfter_stamp dated_a, namedAfter_stamp dated_b,
    Moment.le_stamp_iff dated_a dated_b, Moment.stamp_eq_iff dated_a dated_b⟩

/-- The last second of a year, in the local zone. -/
def yearEnd : Moment := ⟨⟨999, 12, 31⟩, 23, 59, 59, 999999, .ok 0⟩

/-- The first second of the year after it, an hour ahead of UTC. -/
def newYear : Moment := ⟨⟨1000, 1, 1⟩, 0, 0, 0, 0, .ok 3600⟩

theorem years_in_order : yearEnd.Dated ∧ newYear.Dated ∧
    ∃ s t, NamedAfter yearEnd s ∧ NamedAfter newYear t ∧ Text.le s t = true ∧ s ≠ t := by
  have old : yearEnd.Dated := ⟨⟨by decide, by decide, by decide, by decide, by decide⟩, by decide⟩
  have new : newYear.Dated := ⟨⟨by decide, by decide, by decide, by decide, by decide⟩, by decide⟩
  obtain ⟨s, t, named, named', order, same⟩ := timestamps_in_order old new
  exact ⟨old, new, s, t, named, named', order.mpr (by decide), mt same.mp (by decide)⟩

end Naming

end ImageFiling
