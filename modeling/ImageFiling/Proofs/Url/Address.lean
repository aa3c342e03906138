import ImageFiling.Proofs.Text.Digits
import ImageFiling.Proofs.Text.Pieces
import ImageFiling.Url.Address

/-!
# Addresses as they are written

An IPv6 address is written as eight groups of hexadecimal digits between colons. A run of groups may be
left out between two colons that meet, and the last two groups may be written as four decimal numbers.
What is written so is accepted (`isV6_of_isWritten`).
-/

namespace ImageFiling.Address

/-- Four numbers of a byte each, with dots between them. -/
def IsQuad (t : Text) : Prop :=
  ∃ octets : List Nat, octets.length = 4 ∧ (∀ n ∈ octets, n < 256) ∧
    t = Text.joined ['.'] (octets.map Text.numeral)

/-- Parts between colons that stand for a number of groups; a quad stands for two. -/
inductive IsRun : List Text → Nat → Prop where
  | groups {gs : List Text} (hex : ∀ g ∈ gs, isGroup g = true) : IsRun gs gs.length
  | quad {gs : List Text} {q : Text} (hex : ∀ g ∈ gs, isGroup g = true) (isQuad : IsQuad q) :
    IsRun (gs ++ [q]) (gs.length + 2)

/-- The texts of addresses, without a zone. -/
inductive IsWritten : Text → Prop where
  | full {parts : List Text} (run : IsRun parts 8) : IsWritten (Text.joined [':'] parts)
  /-- A run of groups, at least one, is left out. -/
  | gap {before after : List Text} {n : Nat} (hex : ∀ g ∈ before, isGroup g = true)
    (run : IsRun after n) (short : before.length + n ≤ 7) :
    IsWritten (Text.joined [':'] before ++ "::" ++ Text.joined [':'] after)

/-! ### Characters -/

theorem isHexDigit_of_isGroup {g : Text} (group : isGroup g = true) :
    g ≠ [] ∧ ∀ c ∈ g, isHexDigit c = true := by
  simp only [isGroup, Bool.and_eq_true, List.all_eq_true] at group
  refine ⟨?_, group.2⟩
  rintro rfl
  exact Bool.false_ne_true group.1.1

theorem not_mem_of_isGroup {g : Text} (group : isGroup g = true) {c : Char}
    (other : isHexDigit c = false) : c ∉ g := by
  intro member
  rw [(isHexDigit_of_isGroup group).2 c member] at other
  cases other

theorem of_mem_isQuad {q : Text} (isQuad : IsQuad q) {c : Char} (member : c ∈ q) :
    c.isDigit = true ∨ c = '.' := by
  obtain ⟨octets, -, -, rfl⟩ := isQuad
  rcases Text.mem_joined member with dot | ⟨t, inOctets, inside⟩
  · exact .inr (List.mem_singleton.mp dot)
  · obtain ⟨n, -, rfl⟩ := List.mem_map.mp inOctets
    exact .inl (Text.isDigit_of_mem_numeral inside)

theorem IsRun.of_mem {parts : List Text} {n : Nat} (run : IsRun parts n) {part : Text}
    (member : part ∈ parts) {c : Char} (inside : c ∈ part) : isHexDigit c = true ∨ c = '.' := by
  cases run with
  | groups hex => exact .inl ((isHexDigit_of_isGroup (hex part member)).2 c inside)
  | quad hex isQuad =>
    rcases List.mem_append.mp member with inGroups | last
    · exact .inl ((isHexDigit_of_isGroup (hex part inGroups)).2 c inside)
    · rw [List.mem_singleton.mp last] at inside
      refine (of_mem_isQuad isQuad inside).imp_left fun digit => ?_
      simp only [isHexDigit, digit, Bool.true_or]

theorem IsWritten.of_mem {t : Text} (written : IsWritten t) {c : Char} (member : c ∈ t) :
    isHexDigit c = true ∨ c = '.' ∨ c = ':' := by
  have parts {ps : List Text} {n : Nat} (run : IsRun ps n) (inside : c ∈ Text.joined [':'] ps) :
      isHexDigit c = true ∨ c = '.' ∨ c = ':' := by
    rcases Text.mem_joined inside with colon | ⟨part, inParts, inPart⟩
    · exact .inr (.inr (List.mem_singleton.mp colon))
    · exact (run.of_mem inParts inPart).imp_right .inl
  cases written with
  | full run => exact parts run member
  | gap hex run _ =>
    rcases List.mem_append.mp member with further | inAfter
    · rcases List.mem_append.mp further with inBefore | colons
      · exact parts (.groups hex) inBefore
      · have colon : ∀ d ∈ "::".toList, d = ':' := by simp
        exact .inr (.inr (colon c colons))
    · exact parts run inAfter

/-! ### Quads -/

theorem isOctet_numeral : ∀ n < 256, isOctet (Text.numeral n) = true := by decide +kernel

theorem isV4_of_isQuad {q : Text} (isQuad : IsQuad q) : isV4 q = true := by
  obtain ⟨octets, four, small, rfl⟩ := isQuad
  have clean : ∀ t ∈ octets.map Text.numeral, '.' ∉ t := by
    intro t member dot
    obtain ⟨n, -, rfl⟩ := List.mem_map.mp member
    exact absurd (Text.isDigit_of_mem_numeral dot) (by decide)
  have some : octets.map Text.numeral ≠ [] := by
    intro none
    rw [List.map_eq_nil_iff.mp none] at four
    cases four
  have octet : (octets.map Text.numeral).all isOctet = true := by
    rw [List.all_map, List.all_eq_true]
    exact fun n member => isOctet_numeral n (small n member)
  rw [isV4, Text.pieces_joined some clean, List.length_map, four, octet]
  rfl

theorem dot_mem_of_isQuad {q : Text} (isQuad : IsQuad q) : '.' ∈ q := by
  obtain ⟨octets, four, -, rfl⟩ := isQuad
  match octets, four with
  | [a, b, c, d], _ => simp [Text.joined]

/-! ### Groups -/

theorem groups?_hex {parts : List Text} (some : parts ≠ [])
    (plain : ∀ part ∈ parts, ':' ∉ part ∧ '.' ∉ part) :
    groups? (Text.joined [':'] parts) = .some parts := by
  have last := List.getLast?_eq_some_getLast some
  have dots : (parts.getLast some).contains '.' = false := by
    rw [List.contains_eq_mem, decide_eq_false_iff_not]
    exact (plain _ (List.getLast_mem some)).2
  rw [groups?, Text.pieces_joined some fun part member => (plain part member).1]
  simp only [last, dots]
  rfl

theorem groups?_quad {parts : List Text} {q : Text} (clean : ∀ part ∈ parts, ':' ∉ part)
    (isQuad : IsQuad q) :
    groups? (Text.joined [':'] (parts ++ [q])) = some (parts ++ [['0'], ['0']]) := by
  have colon : ':' ∉ q := fun member => by
    rcases of_mem_isQuad isQuad member with digit | dot
    · exact absurd digit (by decide)
    · exact absurd dot (by decide)
  have dots : q.contains '.' = true := List.contains_iff_mem.mpr (dot_mem_of_isQuad isQuad)
  have pieces : Text.pieces ':' (Text.joined [':'] (parts ++ [q])) = parts ++ [q] := by
    apply Text.pieces_joined (List.append_ne_nil_of_right_ne_nil parts (List.cons_ne_nil q []))
    rw [List.forall_mem_append]
    exact ⟨clean, List.forall_mem_singleton.mpr colon⟩
  rw [groups?, pieces]
  simp only [List.getLast?_concat, dots, isV4_of_isQuad isQuad, List.dropLast_concat]
  rfl

theorem areGroups_full {gs : List Text} (hex : ∀ g ∈ gs, isGroup g = true) (eight : gs.length = 8) :
    areGroups gs = true := by
  have none : (gs.drop 1).dropLast.idxOf? [] = none := by
    rw [List.idxOf?_eq_none_iff]
    intro member
    have inGroups := (List.drop_sublist 1 gs).subset ((List.dropLast_sublist _).subset member)
    exact (isHexDigit_of_isGroup (hex _ inGroups)).1 rfl
  rw [areGroups, none]
  simp only [eight, beq_self_eq_true, Bool.true_and]
  exact List.all_eq_true.mpr hex

/-- The parts on one side of a gap; without groups there is one empty part. -/
def side (gs : List Text) : List Text := if gs = [] then [[]] else gs

theorem side_ne_nil (gs : List Text) : side gs ≠ [] := by
  unfold side
  split
  · exact List.cons_ne_nil _ _
  · assumption

theorem forall_mem_side {P : Text → Prop} {gs : List Text} (empty : P []) (others : ∀ g ∈ gs, P g) :
    ∀ part ∈ side gs, P part := by
  unfold side
  split
  · exact List.forall_mem_singleton.mpr empty
  · exact others

theorem plain_side {gs : List Text} (hex : ∀ g ∈ gs, isGroup g = true) :
    ∀ part ∈ side gs, ':' ∉ part ∧ '.' ∉ part := by
  refine forall_mem_side ⟨List.not_mem_nil, List.not_mem_nil⟩ fun g member => ?_
  exact ⟨not_mem_of_isGroup (hex g member) (by decide),
    not_mem_of_isGroup (hex g member) (by decide)⟩

theorem joined_side (gs : List Text) : Text.joined [':'] (side gs) = Text.joined [':'] gs := by
  unfold side
  split
  · next empty =>
    rw [empty]
    rfl
  · rfl

theorem side?_side {gs : List Text} (hex : ∀ g ∈ gs, isGroup g = true) :
    side? (side gs) = some gs.length := by
  unfold side
  split
  · next empty =>
    rw [empty]
    rfl
  · next filled =>
    have other : ¬ (gs == [[]]) = true := by
      rw [beq_iff_eq]
      rintro rfl
      exact (isHexDigit_of_isGroup (hex [] List.mem_cons_self)).1 rfl
    rw [side?, if_neg other, if_pos (List.all_eq_true.mpr hex)]

theorem nil_not_mem_tail_side {gs : List Text} (hex : ∀ g ∈ gs, isGroup g = true) :
    [] ∉ (side gs).tail := by
  unfold side
  split
  · exact List.not_mem_nil
  · intro member
    exact (isHexDigit_of_isGroup (hex _ (List.mem_of_mem_tail member))).1 rfl

theorem idxOf?_append_cons {a : Text} {l : List Text} (absent : a ∉ l) (r : List Text) :
    (l ++ a :: r).idxOf? a = some l.length := by
  induction l with
  | nil => rw [List.nil_append, List.idxOf?_cons, if_pos (beq_self_eq_true a), List.length_nil]
  | cons b l ih =>
    have other : ¬ (b == a) = true := by
      rw [beq_iff_eq]
      exact fun same => absent (same ▸ List.mem_cons_self)
    rw [List.cons_append, List.idxOf?_cons, if_neg other,
      ih fun member => absent (List.mem_cons_of_mem b member)]
    rfl

theorem areGroups_gap {before after : List Text} (left : ∀ g ∈ before, isGroup g = true)
    (right : ∀ g ∈ after, isGroup g = true) (short : before.length + after.length ≤ 7) :
    areGroups (side before ++ [] :: side after) = true := by
  obtain ⟨first, others, cut⟩ := List.exists_cons_of_ne_nil (side_ne_nil before)
  have absent := nil_not_mem_tail_side left
  have counted := side?_side left
  rw [cut] at absent counted ⊢
  have place : (((first :: others) ++ [] :: side after).drop 1).dropLast.idxOf? [] =
      some others.length := by
    rw [List.cons_append, List.drop_one, List.tail_cons, List.dropLast_append_of_ne_nil (by simp),
      List.dropLast_cons_of_ne_nil (side_ne_nil after)]
    exact idxOf?_append_cons absent _
  have start : ((first :: others) ++ [] :: side after).take (others.length + 1) = first :: others := by
    simp
  have rest : ((first :: others) ++ [] :: side after).drop (others.length + 2) = side after := by
    simp
  rw [areGroups, place]
  simp only [start, rest, counted, side?_side right]
  exact decide_eq_true short

/-! ### Addresses -/

theorem joined_gap (before after : List Text) :
    Text.joined [':'] before ++ "::" ++ Text.joined [':'] after =
      Text.joined [':'] (side before ++ [] :: side after) := by
  obtain ⟨first, others, cut⟩ := List.exists_cons_of_ne_nil (side_ne_nil after)
  have later : Text.joined [':'] ([] :: side after) = ':' :: Text.joined [':'] (side after) := by
    rw [cut]
    rfl
  rw [Text.joined_append (side_ne_nil before) (List.cons_ne_nil [] (side after)), later, joined_side,
    joined_side]
  simp

theorem isV6_of_groups {parts gs : List Text} (some : parts ≠ [])
    (clean : ∀ part ∈ parts, ':' ∉ part ∧ '%' ∉ part) (many : 3 ≤ parts.length)
    (grouped : groups? (Text.joined [':'] parts) = .some gs) (accepted : areGroups gs = true) :
    isV6 (Text.joined [':'] parts) = true := by
  have zone : Text.cut '%' (Text.joined [':'] parts) = (Text.joined [':'] parts, none) := by
    apply Text.cut_of_not_mem
    intro percent
    rcases Text.mem_joined percent with colon | ⟨part, member, inside⟩
    · exact absurd colon (by decide)
    · exact (clean part member).2 inside
  rw [isV6, zone]
  simp only [Option.all_none, grouped, Option.any_some, accepted, Bool.and_true, Bool.true_and,
    decide_eq_true_eq]
  rw [Text.pieces_joined some fun part member => (clean part member).1]
  exact many

theorem IsRun.le_length {parts : List Text} {n : Nat} (run : IsRun parts n) :
    n ≤ parts.length + 1 := by
  cases run with
  | groups => exact Nat.le_succ _
  | quad => rw [List.length_append, List.length_singleton]

theorem IsRun.not_mem {parts : List Text} {n : Nat} (run : IsRun parts n) {c : Char}
    (other : isHexDigit c = false) (noDot : c ≠ '.') : ∀ part ∈ parts, c ∉ part := by
  intro part member inside
  rcases run.of_mem member inside with hex | dot
  · rw [hex] at other
    cases other
  · exact noDot dot

/-- A run is read as groups, whatever parts stand before it. -/
theorem IsRun.exists_groups {front parts : List Text} {n : Nat} (run : IsRun parts n)
    (clean : ∀ part ∈ front, ':' ∉ part ∧ '.' ∉ part) :
    ∃ gs, (∀ g ∈ gs, isGroup g = true) ∧ gs.length = n ∧
      groups? (Text.joined [':'] (front ++ side parts)) = some (front ++ side gs) := by
  cases run with
  | groups hex =>
    exact ⟨parts, hex, rfl, groups?_hex (List.append_ne_nil_of_right_ne_nil _ (side_ne_nil _))
      (List.forall_mem_append.mpr ⟨clean, plain_side hex⟩)⟩
  | @quad gs q hex isQuad =>
    have zeros : ∀ g ∈ [['0'], ['0']], isGroup g = true := by decide
    have shown : side (gs ++ [q]) = gs ++ [q] := if_neg (by simp)
    have read : side (gs ++ [['0'], ['0']]) = gs ++ [['0'], ['0']] := if_neg (by simp)
    refine ⟨gs ++ [['0'], ['0']], List.forall_mem_append.mpr ⟨hex, zeros⟩, List.length_append, ?_⟩
    rw [shown, read, ← List.append_assoc, ← List.append_assoc]
    refine groups?_quad (List.forall_mem_append.mpr ⟨fun part member => (clean part member).1, ?_⟩)
      isQuad
    exact fun g member => not_mem_of_isGroup (hex g member) (by decide)

theorem isV6_of_isWritten {t : Text} (written : IsWritten t) : isV6 t = true := by
  have clean {parts : List Text} {n : Nat} (run : IsRun parts n) :
      ∀ part ∈ side parts, ':' ∉ part ∧ '%' ∉ part := by
    refine forall_mem_side ⟨List.not_mem_nil, List.not_mem_nil⟩ fun part member => ?_
    exact ⟨run.not_mem (by decide) (by decide) part member,
      run.not_mem (by decide) (by decide) part member⟩
  cases written with
  | @full parts run =>
    have several := run.le_length
    have shown : side parts = parts := if_neg (by rintro rfl; exact absurd several (by decide))
    obtain ⟨gs, hex, eight, grouped⟩ := run.exists_groups (List.forall_mem_nil _)
    have read : side gs = gs := if_neg (by rintro rfl; cases eight)
    rw [List.nil_append, List.nil_append, shown, read] at grouped
    have some := side_ne_nil parts
    have outside := clean run
    rw [shown] at some outside
    exact isV6_of_groups some outside (by omega) grouped (areGroups_full hex eight)
  | @gap before after n hex run short =>
    have front : ∀ part ∈ side before ++ [[]], ':' ∉ part ∧ '.' ∉ part :=
      List.forall_mem_append.mpr ⟨plain_side hex, List.forall_mem_singleton.mpr (by simp)⟩
    obtain ⟨gs, right, count, grouped⟩ := run.exists_groups front
    rw [List.append_assoc, List.append_assoc, List.singleton_append, List.singleton_append] at grouped
    have outside : ∀ part ∈ side before ++ [] :: side after, ':' ∉ part ∧ '%' ∉ part :=
      List.forall_mem_append.mpr
        ⟨clean (.groups hex), List.forall_mem_cons.mpr ⟨by simp, clean run⟩⟩
    have many : 3 ≤ (side before ++ [] :: side after).length := by
      have first := List.length_pos_iff.mpr (side_ne_nil before)
      have last := List.length_pos_iff.mpr (side_ne_nil after)
      rw [List.length_append, List.length_cons]
      omega
    rw [joined_gap]
    exact isV6_of_groups (by simp) outside many grouped (areGroups_gap hex right (by omega))

theorem colon_mem_of_isV6 {t : Text} (accepted : isV6 t = true) : ':' ∈ t := by
  simp only [isV6, Bool.and_eq_true, decide_eq_true_eq, Text.length_pieces] at accepted
  have counted : 0 < (Text.cut '%' t).1.count ':' := by omega
  exact Text.mem_of_mem_cut (List.count_pos_iff.mp counted)

theorem isV4_eq_false {t : Text} (colon : ':' ∈ t) : isV4 t = false := by
  rw [← Bool.not_eq_true]
  intro accepted
  simp only [isV4, Bool.and_eq_true, List.all_eq_true] at accepted
  obtain ⟨piece, member, inside⟩ := (Text.mem_iff_mem_pieces (show ':' ≠ '.' by decide)).mp colon
  have octet := accepted.2 piece member
  simp only [isOctet, Bool.and_eq_true, List.all_eq_true] at octet
  exact absurd (octet.1.1.1.2 ':' inside) (by decide)

end ImageFiling.Address
