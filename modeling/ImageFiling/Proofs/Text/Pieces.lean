import ImageFiling.Text.Blank
import Mathlib.Data.List.TakeWhile

/-!
# Pieces and lines

Cutting a text into pieces and joining pieces are inverse to each other as long as no piece holds
the separator. Words are pieces between blanks, so a text of words has these words whatever blanks
stand around and between them (`words_of_spaced`).
-/

namespace ImageFiling.Text

theorem piecesBy_eq_splitOnP (p : Char → Bool) (t : Text) : piecesBy p t = t.splitOnP p := by
  induction t with
  | nil => rfl
  | cons c r ih => rw [List.splitOnP_cons_eq_if_modifyHead, piecesBy, ih]

theorem pieces_eq_splitOn (c : Char) (t : Text) : pieces c t = t.splitOn c :=
  piecesBy_eq_splitOnP _ t

theorem joined_eq_intercalate (separator : Text) (ts : List Text) :
    joined separator ts = separator.intercalate ts := by
  induction ts with
  | nil => rfl
  | cons t rest ih =>
    cases rest with
    | nil => exact List.intercalate_singleton.symm
    | cons u rest => rw [joined, ih, List.intercalate_cons_cons]

theorem joined_append {separator : Text} {ts us : List Text} (left : ts ≠ []) (right : us ≠ []) :
    joined separator (ts ++ us) = joined separator ts ++ separator ++ joined separator us := by
  induction ts with
  | nil => exact (left rfl).elim
  | cons t ts ih =>
    cases ts with
    | nil =>
      obtain ⟨u, us, rfl⟩ := List.exists_cons_of_ne_nil right
      rfl
    | cons v ts =>
      have step := ih (List.cons_ne_nil v ts)
      simp only [List.cons_append, joined] at step ⊢
      rw [step]
      simp only [List.append_assoc]

theorem pieces_joined {c : Char} {ts : List Text} (some : ts ≠ []) (clean : ∀ t ∈ ts, c ∉ t) :
    pieces c (joined [c] ts) = ts := by
  rw [pieces_eq_splitOn, joined_eq_intercalate]
  exact List.splitOn_intercalate c clean some

@[simp] theorem pieces_append_cons (c : Char) (before rest : Text) :
    pieces c (before ++ c :: rest) = pieces c before ++ pieces c rest := by
  rw [pieces_eq_splitOn, pieces_eq_splitOn, pieces_eq_splitOn]
  exact List.splitOn_append_cons_self before rest

@[simp] theorem pieces_singleton {c : Char} {t : Text} (clean : c ∉ t) : pieces c t = [t] := by
  rw [pieces_eq_splitOn]
  exact List.splitOn_eq_singleton clean

@[simp] theorem length_pieces (c : Char) (t : Text) : (pieces c t).length = t.count c + 1 := by
  induction t with
  | nil => rfl
  | cons d t ih =>
    by_cases separator : d = c
    · subst separator
      have step : pieces d (d :: t) = [] :: pieces d t := if_pos (beq_self_eq_true d)
      rw [step, List.length_cons, ih, List.count_cons_self]
    · have kept : ¬ (d == c) = true := by simpa using separator
      have step : pieces c (d :: t) = (pieces c t).modifyHead (d :: ·) := if_neg kept
      rw [step, List.length_modifyHead, ih, List.count_cons_of_ne separator]

theorem mem_joined {separator : Text} {ts : List Text} {c : Char} (found : c ∈ joined separator ts) :
    c ∈ separator ∨ ∃ t ∈ ts, c ∈ t := by
  induction ts with
  | nil => cases found
  | cons t rest ih =>
    cases rest with
    | nil => exact .inr ⟨t, List.mem_singleton_self t, found⟩
    | cons u rest =>
      rw [joined, List.append_assoc, List.mem_append, List.mem_append] at found
      rcases found with here | between | later
      · exact .inr ⟨t, List.mem_cons_self, here⟩
      · exact .inl between
      · rcases ih later with between | ⟨v, member, inside⟩
        · exact .inl between
        · exact .inr ⟨v, List.mem_cons_of_mem t member, inside⟩

theorem of_mem_piecesBy {p : Char → Bool} {t piece : Text} (member : piece ∈ piecesBy p t) {c : Char}
    (inside : c ∈ piece) : p c = false ∧ c ∈ t := by
  induction t generalizing piece with
  | nil =>
    rw [piecesBy, List.mem_singleton] at member
    subst member
    cases inside
  | cons d r ih =>
    unfold piecesBy at member
    split at member
    · rcases List.mem_cons.mp member with rfl | later
      · cases inside
      · exact ⟨(ih later inside).1, List.mem_cons_of_mem d (ih later inside).2⟩
    · next kept =>
      obtain ⟨first, others, cut⟩ := List.exists_cons_of_ne_nil (piecesBy_ne_nil p r)
      rw [cut, List.modifyHead_cons] at member
      rw [cut] at ih
      rcases List.mem_cons.mp member with rfl | later
      · rcases List.mem_cons.mp inside with rfl | further
        · exact ⟨eq_false_of_ne_true kept, List.mem_cons_self⟩
        · have old := ih List.mem_cons_self further
          exact ⟨old.1, List.mem_cons_of_mem d old.2⟩
      · have old := ih (List.mem_cons_of_mem first later) inside
        exact ⟨old.1, List.mem_cons_of_mem d old.2⟩

theorem mem_iff_mem_pieces {c d : Char} (other : d ≠ c) {t : Text} :
    d ∈ t ↔ ∃ piece ∈ pieces c t, d ∈ piece := by
  constructor
  · intro inside
    rw [← joined_pieces c t] at inside
    exact (mem_joined inside).resolve_left fun separator => other (List.mem_singleton.mp separator)
  · rintro ⟨piece, member, inside⟩
    exact (of_mem_piecesBy member inside).2

/-! ### Cutting -/

theorem forall_ne_of_not_mem {c : Char} {t : Text} (clean : c ∉ t) : ∀ d ∈ t, (d != c) = true := by
  intro d member
  rw [bne_iff_ne]
  rintro rfl
  exact clean member

theorem cut_append {c : Char} {before : Text} (clean : c ∉ before) (rest : Text) :
    cut c (before ++ rest) = (before ++ (cut c rest).1, (cut c rest).2) := by
  have passes := forall_ne_of_not_mem clean
  unfold cut
  rw [List.takeWhile_append_of_pos passes, List.dropWhile_append_of_pos passes]

@[simp] theorem cut_cons (c : Char) (rest : Text) : cut c (c :: rest) = ([], some rest) := by
  unfold cut
  rw [List.takeWhile_cons_of_neg (by simp), List.dropWhile_cons_of_neg (by simp), List.tail?_cons]

@[simp] theorem cut_append_cons {c : Char} {before : Text} (clean : c ∉ before) (rest : Text) :
    cut c (before ++ c :: rest) = (before, some rest) := by
  rw [cut_append clean, cut_cons, List.append_nil]

@[simp] theorem cut_of_not_mem {c : Char} {t : Text} (clean : c ∉ t) : cut c t = (t, none) := by
  have whole := cut_append clean []
  rw [List.append_nil] at whole
  rw [whole]
  exact congrArg (·, none) (List.append_nil t)

theorem mem_of_mem_cut {c d : Char} {t : Text} (member : d ∈ (cut c t).1) : d ∈ t :=
  (List.takeWhile_sublist _).subset member

theorem mem_of_mem_cut_rest {c d : Char} {t : Text} (member : d ∈ (cut c t).2.getD []) : d ∈ t := by
  cases h : (cut c t).2 with
  | none =>
    rw [h] at member
    cases member
  | some rest =>
    rw [h] at member
    exact (suffix_of_cut (Prod.ext rfl h)).subset member

@[simp] theorem after?_append (start rest : Text) : after? start (start ++ rest) = some rest := by
  induction start with
  | nil => cases rest <;> rfl
  | cons c start ih =>
    change (if c == c then after? start (start ++ rest) else none) = some rest
    rw [if_pos (beq_self_eq_true c), ih]

@[simp] theorem isSuffixOf?_append (before last : Text) : last.isSuffixOf? (before ++ last) = some before := by
  have reversed := after?_append last.reverse before.reverse
  unfold after? at reversed
  unfold List.isSuffixOf?
  rw [List.reverse_append, reversed, Option.map_some, List.reverse_reverse]

@[simp] theorem afterLast_append_cons {c : Char} {last : Text} (clean : c ∉ last) (before : Text) :
    afterLast c (before ++ c :: last) = last := by
  have passes : ∀ d ∈ last.reverse, (d != c) = true := by
    intro d member
    exact forall_ne_of_not_mem clean d (List.mem_reverse.mp member)
  have order : (before ++ c :: last).reverse = last.reverse ++ c :: before.reverse := by
    simp
  unfold afterLast
  rw [order, List.takeWhile_append_of_pos passes, List.takeWhile_cons_of_neg (by simp),
    List.append_nil, List.reverse_reverse]

@[simp] theorem afterLast_of_not_mem {c : Char} {t : Text} (clean : c ∉ t) : afterLast c t = t := by
  have passes : ∀ d ∈ t.reverse, (d != c) = true := by
    intro d member
    exact forall_ne_of_not_mem clean d (List.mem_reverse.mp member)
  rw [afterLast, List.takeWhile_eq_self_iff.mpr passes, List.reverse_reverse]

theorem mem_of_mem_afterLast {c d : Char} {t : Text} (member : d ∈ afterLast c t) : d ∈ t := by
  have inner := (List.takeWhile_sublist _).subset (List.mem_reverse.mp member)
  exact List.mem_reverse.mp inner

/-! ### Blanks -/

theorem mem_of_mem_strip {c : Char} {t : Text} (member : c ∈ strip t) : c ∈ t := by
  have inner := (List.dropWhile_sublist isBlank).subset (List.mem_reverse.mp member)
  exact (List.dropWhile_sublist isBlank).subset (List.mem_reverse.mp inner)

theorem of_mem_words {t word : Text} (member : word ∈ words t) :
    word ≠ [] ∧ ∀ c ∈ word, isBlank c = false := by
  obtain ⟨piece, full⟩ := List.mem_filter.mp member
  refine ⟨?_, fun c inside => (of_mem_piecesBy piece inside).1⟩
  rintro rfl
  exact Bool.false_ne_true full

theorem not_mem_joined_words {c : Char} (blank : isBlank c = true) (visible : c ≠ ' ') (t : Text) :
    c ∉ joined " " (words t) := by
  intro found
  rcases mem_joined found with space | ⟨word, member, inside⟩
  · exact visible (List.mem_singleton.mp space)
  · rw [(of_mem_words member).2 c inside] at blank
    cases blank

theorem words_joined {ts : List Text} (clean : ∀ t ∈ ts, t ≠ [] ∧ ∀ c ∈ t, isBlank c = false) :
    words (joined " " ts) = ts := by
  induction ts with
  | nil => rfl
  | cons t rest ih =>
    have full : (!t.isEmpty) = true := by simpa using (clean t List.mem_cons_self).1
    have solid := (clean t List.mem_cons_self).2
    have others := ih fun u member => clean u (List.mem_cons_of_mem t member)
    unfold words at others ⊢
    rw [piecesBy_eq_splitOnP] at others ⊢
    cases rest with
    | nil =>
      rw [joined, List.splitOnP_eq_singleton solid, List.filter_cons, if_pos full, List.filter_nil]
    | cons u rest =>
      have shape : joined " " (t :: u :: rest) = t ++ ' ' :: joined " " (u :: rest) :=
        List.append_assoc t " ".toList _
      rw [shape, List.splitOnP_append_cons_of_forall_mem solid ' ' rfl, List.filter_cons,
        if_pos full, others]

/-- A text that has words with blanks between them, and perhaps before and after them. -/
inductive Spaced : List Text → Text → Prop where
  | nil : Spaced [] []
  | blank {c : Char} {ws : List Text} {t : Text} (between : isBlank c = true) (rest : Spaced ws t) :
    Spaced ws (c :: t)
  | last {word : Text} (full : word ≠ []) (solid : ∀ c ∈ word, isBlank c = false) :
    Spaced [word] word
  | word {word t : Text} {c : Char} {ws : List Text} (full : word ≠ [])
    (solid : ∀ c ∈ word, isBlank c = false) (between : isBlank c = true) (rest : Spaced ws t) :
    Spaced (word :: ws) (word ++ c :: t)

theorem words_append_blank {c : Char} (blank : isBlank c = true) (before rest : Text) :
    words (before ++ c :: rest) = words before ++ words rest := by
  unfold words
  simp only [piecesBy_eq_splitOnP]
  rw [List.splitOnP_append_cons before rest blank, List.filter_append]

theorem words_of_solid {word : Text} (full : word ≠ []) (solid : ∀ c ∈ word, isBlank c = false) :
    words word = [word] := by
  unfold words
  rw [piecesBy_eq_splitOnP, List.splitOnP_eq_singleton solid]
  simp [full]

theorem words_of_spaced {ws : List Text} {t : Text} (spaced : Spaced ws t) : words t = ws := by
  induction spaced with
  | nil => rfl
  | blank between _ ih => exact (words_append_blank between [] _).trans ih
  | last full solid => exact words_of_solid full solid
  | word full solid between _ ih =>
    rw [words_append_blank between, words_of_solid full solid, ih]
    rfl

theorem collapse_collapse (t : Text) :
    joined " " (words (joined " " (words t))) = joined " " (words t) := by
  rw [words_joined fun word member => of_mem_words member]

theorem collapse_of_solid {t : Text} (solid : ∀ c ∈ t, isBlank c = false) :
    joined " " (words t) = t := by
  unfold words
  rw [piecesBy_eq_splitOnP, List.splitOnP_eq_singleton solid]
  cases t with
  | nil => rfl
  | cons c r => rfl

end ImageFiling.Text
