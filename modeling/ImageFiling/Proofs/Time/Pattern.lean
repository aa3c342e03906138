import ImageFiling.Proofs.Result
import ImageFiling.Proofs.Text.Digits
import ImageFiling.Proofs.Text.Pieces
import ImageFiling.Proofs.Time.Moment
import ImageFiling.Time.Pattern

/-!
# Rendered moments

A moment whose offset can be told is rendered by every pattern. The timestamp needs no offset: it is
made of digits alone, fourteen of them within the calendar.
-/

namespace ImageFiling

open DateField (two)

theorem DateField.render_error {m : Moment} {f : DateField} {e : TimeFault}
    (failed : f.render m = .error e) : m.utcOffset = .error e := by
  cases f with
  | offset | offsetPlain => exact map_eq_error.mp failed
  | _ => cases failed

theorem Pattern.renderParts_error {m : Moment} {parts : List PatternPart} {e : TimeFault}
    (failed : renderParts m parts = .error e) : m.utcOffset = .error e := by
  induction parts with
  | nil => cases failed
  | cons p rest ih =>
    rcases bind_eq_error.mp failed with first | ⟨t, -, later⟩
    · cases p with
      | text t => cases first
      | field f => exact f.render_error first
    · rcases bind_eq_error.mp later with others | ⟨u, -, never⟩
      · exact ih others
      · cases never

theorem Moment.format_error {m : Moment} {pattern : Text} {e : TimeFault}
    (failed : m.format pattern = .error e) : m.utcOffset = .error e :=
  Pattern.renderParts_error failed

theorem Moment.format_ok {m : Moment} {o : Int} (told : m.utcOffset = .ok o) (pattern : Text) :
    ∃ t, m.format pattern = .ok t := by
  cases rendered : m.format pattern with
  | ok t => exact ⟨t, rfl⟩
  | error e => cases told.symm.trans (format_error rendered)

/-! ### The timestamp -/

/-- Year, month, day, hour, minute and second. -/
def Moment.stamp (m : Moment) : Text :=
  [Text.padded 4 m.date.year, two m.date.month, two m.date.day, two m.hour, two m.minute,
    two m.second].flatten

theorem Pattern.parse_timestamp : parse timestamp =
    [.field .year, .field .monthPadded, .field .dayPadded, .field .hourPadded,
      .field .minutePadded, .field .secondPadded] := by
  decide +kernel

namespace Moment

theorem format_timestamp (m : Moment) : m.format Pattern.timestamp = .ok m.stamp := by
  rw [format, Pattern.parse_timestamp]
  rfl

theorem isDigit_of_mem_stamp {m : Moment} {c : Char} (member : c ∈ m.stamp) : c.isDigit = true := by
  obtain ⟨part, inside, here⟩ := List.mem_flatten.mp member
  simp only [List.mem_cons, List.not_mem_nil, or_false] at inside
  rcases inside with rfl | rfl | rfl | rfl | rfl | rfl <;> exact Text.isDigit_of_mem_padded here

theorem stamp_ne_nil (m : Moment) : m.stamp ≠ [] := by
  intro empty
  have year := List.flatten_eq_nil_iff.mp empty (Text.padded 4 m.date.year) List.mem_cons_self
  have numeral := (List.append_eq_nil_iff.mp year).2
  have positive := Text.length_numeral_pos m.date.year
  rw [numeral] at positive
  cases positive

theorem Valid.length_stamp {m : Moment} (valid : m.Valid) (year : m.date.year ≤ 9999) :
    m.stamp.length = 14 := by
  have days := monthLength_le m.date.year m.date.month
  have four : (Text.padded 4 m.date.year).length = 4 := Text.length_padded (k := 3) (by omega)
  have pair {n : Nat} (small : n < 100) : (two n).length = 2 := Text.length_padded_two small
  obtain ⟨month, day, hour, minute, second⟩ := valid
  simp only [stamp, List.flatten_cons, List.flatten_nil, List.length_append, List.length_nil]
  rw [four, pair (by omega), pair (by omega), pair (by omega), pair (by omega), pair (by omega)]

end Moment

/-! ### The characters of rendered moments -/

namespace DateField

/-- What the fields of a moment are written with, but for the colon of an offset. -/
def isInk (c : Char) : Bool := c.isAlphanum || c == '+' || c == '-'

variable {c : Char}

theorem isInk_of_isDigit (digit : c.isDigit = true) : isInk c = true := by
  simp [isInk, Char.isAlphanum, digit]

theorem isInk_of_mem_numeral {n : Nat} (member : c ∈ Text.numeral n) : isInk c = true :=
  isInk_of_isDigit (Text.isDigit_of_mem_numeral member)

theorem isInk_of_mem_padded {width n : Nat} (member : c ∈ Text.padded width n) : isInk c = true :=
  isInk_of_isDigit (Text.isDigit_of_mem_padded member)

theorem isInk_of_mem_name {names : List Text} (inked : (names.all (·.all isInk)) = true) {i : Nat}
    (member : c ∈ names.getD i []) : isInk c = true := by
  rw [List.getD_eq_getElem?_getD] at member
  cases found : names[i]? with
  | none =>
    rw [found] at member
    cases member
  | some name =>
    rw [found] at member
    have whole := List.all_eq_true.mp inked name (List.mem_of_getElem? found)
    exact List.all_eq_true.mp whole c member

theorem monthNames_isInk : (monthNames.all (·.all isInk)) = true := by decide +kernel

theorem weekdayNames_isInk : (weekdayNames.all (·.all isInk)) = true := by decide +kernel

theorem mem_offsetText {separator : Text} {seconds : Int} (member : c ∈ offsetText separator seconds) :
    isInk c = true ∨ c ∈ separator := by
  have sign : isInk (if seconds.fdiv 60 < 0 then '-' else '+') = true := by split <;> rfl
  unfold offsetText at member
  rcases List.mem_append.mp member with start | minutes
  · rcases List.mem_append.mp start with hours | between
    · rcases List.mem_cons.mp hours with rfl | digit
      · exact .inl sign
      · exact .inl (isInk_of_mem_padded digit)
    · exact .inr between
  · exact .inl (isInk_of_mem_padded minutes)

/-- Only the offset with its separator is written with a colon. -/
theorem mem_render {m : Moment} {f : DateField} {t : Text} (rendered : f.render m = .ok t)
    (member : c ∈ t) : isInk c = true ∨ (f = .offset ∧ c = ':') := by
  cases f with
  | offset =>
    obtain ⟨o, -, rfl⟩ := map_eq_ok.mp rendered
    exact (mem_offsetText member).imp_right fun between => ⟨rfl, List.mem_singleton.mp between⟩
  | offsetPlain =>
    obtain ⟨o, -, rfl⟩ := map_eq_ok.mp rendered
    exact (mem_offsetText member).imp_right nofun
  | month | day | weekday | hour | halfHour | minute | second =>
    cases rendered
    exact .inl (isInk_of_mem_numeral member)
  | yearOfCentury | year | monthPadded | dayPadded | hourPadded | halfHourPadded | minutePadded
  | secondPadded | millisecond =>
    cases rendered
    exact .inl (isInk_of_mem_padded member)
  | monthName =>
    cases rendered
    exact .inl (isInk_of_mem_name monthNames_isInk member)
  | monthShort =>
    cases rendered
    exact .inl (isInk_of_mem_name monthNames_isInk (List.mem_of_mem_take member))
  | weekdayName =>
    cases rendered
    exact .inl (isInk_of_mem_name weekdayNames_isInk member)
  | weekdayTwo | weekdayShort =>
    cases rendered
    exact .inl (isInk_of_mem_name weekdayNames_isInk (List.mem_of_mem_take member))
  | half | halfCapital =>
    cases rendered
    split at member <;> simp at member <;> rcases member with rfl | rfl <;> exact .inl rfl

theorem colon_mem_offset {m : Moment} {t : Text} (rendered : offset.render m = .ok t) : ':' ∈ t := by
  obtain ⟨o, -, rfl⟩ := map_eq_ok.mp rendered
  simp [offsetText]

end DateField

namespace Pattern

theorem suffix_of_first (c : Char) (r : Text) : (first c r).2 <:+ r := by
  unfold first
  split
  · next inner rest found =>
    split at found
    · unfold bracketed? at found
      split at found
      · next cut =>
        split at found
        · cases found
        · cases found
          exact Text.suffix_of_cut cut
      · cases found
    · cases found
  · exact List.drop_suffix _ r

/-- Text of a pattern that stands for itself is taken from the pattern. -/
theorem mem_of_first {c d : Char} {r t : Text} (read : (first c r).1 = .text t) (member : d ∈ t) :
    d ∈ c :: r := by
  unfold first at read
  split at read
  · next inner rest found =>
    cases read
    split at found
    · unfold bracketed? at found
      split at found
      · next i s cut =>
        split at found
        · cases found
        · cases found
          have before : d ∈ (r.cut ']').1 := by rwa [cut]
          exact List.mem_cons_of_mem c (Text.mem_of_mem_cut before)
      · cases found
    · cases found
  · unfold ofRun at read
    split at read
    · cases read
    · cases read
      rw [(List.mem_replicate.mp member).2]
      exact List.mem_cons_self

/-- A field is named by a run of the character it is read at. -/
theorem ofRun?_of_first {c : Char} {r : Text} {f : DateField} (read : (first c r).1 = .field f) :
    ∃ n, DateField.ofRun? c n = some f := by
  unfold first at read
  split at read
  · cases read
  · unfold ofRun at read
    split at read
    · next g named =>
      cases read
      exact ⟨_, named⟩
    · cases read

/-- Every part of a pattern is the first one of some end of it. -/
theorem exists_first_of_mem_parse {pattern : Text} {part : PatternPart} (member : part ∈ parse pattern) :
    ∃ c r, c :: r <:+ pattern ∧ (first c r).1 = part := by
  induction pattern using parse.induct with
  | case1 =>
    rw [parse] at member
    cases member
  | case2 d r ih =>
    rw [parse] at member
    rcases List.mem_cons.mp member with rfl | later
    · exact ⟨d, r, List.suffix_refl _, rfl⟩
    · obtain ⟨c, t, ends, read⟩ := ih later
      exact ⟨c, t, (ends.trans (suffix_of_first d r)).trans (List.suffix_cons d r), read⟩

theorem mem_of_parse {pattern t : Text} {c : Char} (part : .text t ∈ parse pattern) (member : c ∈ t) :
    c ∈ pattern := by
  obtain ⟨d, r, ends, read⟩ := exists_first_of_mem_parse part
  exact ends.subset (mem_of_first read member)

variable {m : Moment} {parts : List PatternPart} {t : Text}

theorem exists_part_of_mem {c : Char} (rendered : renderParts m parts = .ok t) (member : c ∈ t) :
    ∃ p ∈ parts, ∃ u, renderPart m p = .ok u ∧ c ∈ u := by
  induction parts generalizing t with
  | nil =>
    cases rendered
    cases member
  | cons p rest ih =>
    obtain ⟨u, first, later⟩ := bind_eq_ok.mp rendered
    obtain ⟨v, others, whole⟩ := bind_eq_ok.mp later
    cases whole
    rcases List.mem_append.mp member with here | there
    · exact ⟨p, List.mem_cons_self, u, first, here⟩
    · obtain ⟨q, part, w, shown, inside⟩ := ih others there
      exact ⟨q, List.mem_cons_of_mem p part, w, shown, inside⟩

theorem exists_infix_of_mem {p : PatternPart} (rendered : renderParts m parts = .ok t)
    (part : p ∈ parts) : ∃ u, renderPart m p = .ok u ∧ u <:+: t := by
  induction parts generalizing t with
  | nil => cases part
  | cons q rest ih =>
    obtain ⟨u, first, later⟩ := bind_eq_ok.mp rendered
    obtain ⟨v, others, whole⟩ := bind_eq_ok.mp later
    cases whole
    rcases List.mem_cons.mp part with rfl | inRest
    · exact ⟨u, first, (List.prefix_append u v).isInfix⟩
    · obtain ⟨w, shown, inside⟩ := ih others inRest
      exact ⟨w, shown, inside.trans (List.suffix_append u v).isInfix⟩

end Pattern

/-- A date pattern that shows the offset from UTC with a colon in it. -/
def Pattern.ShowsColon (pattern : Text) : Prop := .field .offset ∈ parse pattern

theorem Pattern.letter_mem_of_showsColon {pattern : Text} (shown : ShowsColon pattern) :
    'Z' ∈ pattern := by
  obtain ⟨c, r, ends, read⟩ := exists_first_of_mem_parse shown
  obtain ⟨n, named⟩ := ofRun?_of_first read
  have letter : c = 'Z' := by
    unfold DateField.ofRun? at named
    split at named <;> first | rfl | cases named
  subst letter
  exact ends.subset List.mem_cons_self

namespace Moment

variable {m : Moment} {pattern t : Text}

theorem mem_format {c : Char} (rendered : m.format pattern = .ok t) (member : c ∈ t) :
    c ∈ pattern ∨ DateField.isInk c = true ∨ (c = ':' ∧ Pattern.ShowsColon pattern) := by
  obtain ⟨p, part, u, here, inside⟩ := Pattern.exists_part_of_mem rendered member
  cases p with
  | text v =>
    cases here
    exact .inl (Pattern.mem_of_parse part inside)
  | field f =>
    rcases DateField.mem_render here inside with ink | ⟨rfl, colon⟩
    · exact .inr (.inl ink)
    · exact .inr (.inr ⟨colon, part⟩)

theorem colon_mem_format (rendered : m.format pattern = .ok t)
    (shown : Pattern.ShowsColon pattern) : ':' ∈ t := by
  obtain ⟨u, offset, inside⟩ := Pattern.exists_infix_of_mem rendered shown
  exact inside.subset (DateField.colon_mem_offset offset)

end Moment

end ImageFiling
