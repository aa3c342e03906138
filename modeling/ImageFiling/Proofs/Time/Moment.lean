import ImageFiling.Time.Moment

/-!
# Readings in UTC

A reading that is already in UTC stays as it is.
-/

namespace ImageFiling.Moment

/-- A day of the calendar and a time of day. -/
structure Valid (m : Moment) : Prop where
  month : 1 ≤ m.date.month ∧ m.date.month ≤ 12
  day : 1 ≤ m.date.day ∧ m.date.day ≤ Date.monthLength m.date.year m.date.month
  hour : m.hour < 24
  minute : m.minute < 60
  second : m.second < 60

theorem monthLength_le (year month : Nat) : Date.monthLength year month ≤ 31 := by
  unfold Date.monthLength
  split
  · split <;> omega
  · split <;> omega

theorem Valid.toUtc {m : Moment} (valid : m.Valid) :
    Moment.toUtc { m with utcOffset := .ok 0 } = .ok { m with utcOffset := .ok 0 } := by
  obtain ⟨-, -, hour, minute, second⟩ := valid
  have days : ((m.hour * 3600 + m.minute * 60 + m.second - 0 : Int)).fdiv 86400 = 0 := by
    rw [Int.fdiv_eq_ediv_of_nonneg _ (by decide)]
    omega
  have rest : ((m.hour * 3600 + m.minute * 60 + m.second - 0 : Int).fmod 86400).toNat =
      m.hour * 3600 + m.minute * 60 + m.second := by
    rw [Int.fmod_eq_emod_of_nonneg _ (by decide)]
    omega
  have hours : (m.hour * 3600 + m.minute * 60 + m.second) / 3600 = m.hour := by omega
  have minutes : (m.hour * 3600 + m.minute * 60 + m.second) / 60 % 60 = m.minute := by omega
  have seconds : (m.hour * 3600 + m.minute * 60 + m.second) % 60 = m.second := by omega
  have sameDay : m.date.add? 0 = some m.date := rfl
  simp only [Moment.toUtc, bind, Except.bind, days, sameDay, rest, hours, minutes, seconds]

end ImageFiling.Moment
