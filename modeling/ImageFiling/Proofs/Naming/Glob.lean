import ImageFiling.Naming.Glob

/-!
# What URL patterns match

A URL matches a pattern exactly if it is woven from the parts between the asterisks, in their order,
and any texts in between (`admits_iff_weaves`). Each row of a match is read as marks on suffixes: it
marks those that the pattern from some place on can be woven into.
-/

namespace ImageFiling.Glob

/-- The parts of a pattern with a text in each gap between them. -/
def woven : List Text → List Text → Text
  | [], _ => []
  | p :: _, [] => p
  | p :: ps, gap :: gaps => p ++ (gap ++ woven ps gaps)

/-- A text consists of these parts with some text, maybe none, between each part and the next. -/
def Weaves (parts : List Text) (t : Text) : Prop :=
  ∃ gaps : List Text, gaps.length + 1 = parts.length ∧ woven parts gaps = t

theorem weaves_nil {t : Text} : Weaves [[]] t ↔ t = [] := by
  constructor
  · rintro ⟨gaps, count, rfl⟩
    cases gaps with
    | nil => rfl
    | cons gap gaps => cases count
  · rintro rfl
    exact ⟨[], rfl, rfl⟩

theorem woven_cons (c : Char) (p : Text) (ps gaps : List Text) :
    woven ((c :: p) :: ps) gaps = c :: woven (p :: ps) gaps := by
  cases gaps <;> rfl

theorem weaves_char {c : Char} {p : Text} {ps : List Text} {t : Text} :
    Weaves ((c :: p) :: ps) t ↔ ∃ rest, t = c :: rest ∧ Weaves (p :: ps) rest := by
  constructor
  · rintro ⟨gaps, count, rfl⟩
    exact ⟨woven (p :: ps) gaps, woven_cons c p ps gaps, gaps, count, rfl⟩
  · rintro ⟨rest, rfl, gaps, count, rfl⟩
    exact ⟨gaps, count, woven_cons c p ps gaps⟩

theorem weaves_gap {ps : List Text} (more : ps ≠ []) {t : Text} :
    Weaves ([] :: ps) t ↔ ∃ gap rest, t = gap ++ rest ∧ Weaves ps rest := by
  constructor
  · rintro ⟨gaps, count, rfl⟩
    cases gaps with
    | nil => exact absurd (List.length_eq_zero_iff.mp (Nat.succ.inj count).symm) more
    | cons gap gaps => exact ⟨gap, woven ps gaps, rfl, gaps, Nat.succ.inj count, rfl⟩
  · rintro ⟨gap, rest, rfl, gaps, count, rfl⟩
    exact ⟨gap :: gaps, congrArg Nat.succ count, rfl⟩

/-! ### Marks on suffixes -/

/-- The marks say of each suffix of a text, the longest first, whether it is in a set. -/
inductive Marks (P : Text → Prop) : Text → List Bool → Prop where
  | last {b : Bool} (said : b = true ↔ P []) : Marks P [] [b]
  | next {c : Char} {t : Text} {b : Bool} {marks : List Bool} (said : b = true ↔ P (c :: t))
    (rest : Marks P t marks) : Marks P (c :: t) (b :: marks)

variable {P Q : Text → Prop} {t : Text} {marks : List Bool}

theorem Marks.headD_iff (m : Marks P t marks) : marks.headD false = true ↔ P t := by
  cases m with
  | last said => exact said
  | next said _ => exact said

theorem Marks.congr (same : ∀ u, P u ↔ Q u) (m : Marks P t marks) : Marks Q t marks := by
  induction m with
  | last said => exact .last (said.trans (same _))
  | next said _ ih => exact .next (said.trans (same _)) ih

theorem marks_end (t : Text) : Marks (· = []) t (List.replicate t.length false ++ [true]) := by
  induction t with
  | nil => exact .last (by simp)
  | cons c t ih => exact .next (by simp) ih

theorem Marks.spread (m : Marks P t marks) :
    Marks (fun u => ∃ gap rest, u = gap ++ rest ∧ P rest) t (spread marks) := by
  induction m with
  | @last b said =>
    refine .last ?_
    rw [Glob.spread, List.headD_nil, Bool.or_false, said]
    constructor
    · intro inside
      exact ⟨[], [], rfl, inside⟩
    · rintro ⟨gap, rest, cut, inside⟩
      rwa [(List.append_eq_nil_iff.mp cut.symm).2] at inside
  | @next c t b marks said _ ih =>
    refine .next ?_ ih
    rw [Bool.or_eq_true, said, ih.headD_iff]
    constructor
    · rintro (here | ⟨gap, rest, rfl, inside⟩)
      · exact ⟨[], c :: t, rfl, here⟩
      · exact ⟨c :: gap, rest, rfl, inside⟩
    · rintro ⟨gap, rest, cut, inside⟩
      cases gap with
      | nil => exact .inl (cut ▸ inside)
      | cons d gap => exact .inr ⟨gap, rest, (List.cons.inj cut).2, inside⟩

theorem Marks.step (c : Char) (m : Marks P t marks) :
    Marks (fun u => ∃ rest, u = c :: rest ∧ P rest) t (step c t marks) := by
  induction m with
  | last => exact .last (by simp)
  | @next d t b marks _ rest ih =>
    refine .next ?_ ih
    rw [Bool.and_eq_true, beq_iff_eq, rest.headD_iff]
    constructor
    · rintro ⟨rfl, inside⟩
      exact ⟨t, rfl, inside⟩
    · rintro ⟨u, cut, inside⟩
      obtain ⟨rfl, rfl⟩ := List.cons.inj cut
      exact ⟨rfl, inside⟩

/-! ### Rows -/

theorem row_marks (pattern t : Text) :
    Marks (Weaves (Text.pieces '*' pattern)) t (row t pattern) := by
  induction pattern with
  | nil => exact (marks_end t).congr fun u => weaves_nil.symm
  | cons c pattern ih =>
    rw [row]
    split
    · next star =>
      subst star
      exact ih.spread.congr fun u => (weaves_gap (Text.pieces_ne_nil '*' pattern)).symm
    · next other =>
      obtain ⟨p, ps, cut⟩ := List.exists_cons_of_ne_nil (Text.pieces_ne_nil '*' pattern)
      have longer : Text.pieces '*' (c :: pattern) = (c :: p) :: ps := by
        have tail : Text.piecesBy (· == '*') pattern = p :: ps := cut
        rw [Text.pieces, Text.piecesBy, if_neg (by simpa using other), tail, List.modifyHead_cons]
      rw [cut] at ih
      rw [longer]
      exact (ih.step c).congr fun u => weaves_char.symm

/-- A URL matches a pattern exactly if the pattern is there, is not empty, and the URL is woven from
its parts between the asterisks. -/
theorem admits_iff_weaves (pattern : Option Text) (url : Text) :
    admits pattern url = true ↔
      ∃ p, pattern = some p ∧ p ≠ [] ∧ Weaves (Text.pieces '*' p) url := by
  rw [admits, Option.any_eq_true]
  refine exists_congr fun p => and_congr Iff.rfl ?_
  rw [accepts, Bool.and_eq_true, (row_marks p url).headD_iff]
  simp

end ImageFiling.Glob
