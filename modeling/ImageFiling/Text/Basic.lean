/-!
# Text

A text is the list of its characters. The operations cut texts at characters and put the pieces
together again; `joined_pieces` says that cutting at a character loses nothing, and the lemmas on
suffixes say that what is left after a cut is the end of the text.
-/

namespace ImageFiling

/-- The characters of a text are scalar values of Unicode. Half of a surrogate pair without the other
half, which an argument or a reply may bring along, is none of them: nothing is said here of what is
done with one. -/
abbrev Text := List Char

/-- A string literal stands for the text of its characters. -/
instance : Coe String Text := ⟨String.toList⟩

namespace Text

/-- The pieces between the characters that satisfy `p`; there is always at least one. -/
def piecesBy (p : Char → Bool) : Text → List Text
  | [] => [[]]
  | c :: r => if p c then [] :: piecesBy p r else (piecesBy p r).modifyHead (c :: ·)

def pieces (c : Char) (t : Text) : List Text := piecesBy (· == c) t

def joined (separator : Text) : List Text → Text
  | [] => []
  | [t] => t
  | t :: u :: rest => t ++ separator ++ joined separator (u :: rest)

/-- The text before the first `c`, and the text after it if there is one. -/
def cut (c : Char) (t : Text) : Text × Option Text :=
  (t.takeWhile (· != c), (t.dropWhile (· != c)).tail?)

/-- The rest of the text after `start`, if the text starts with it. -/
def after? (start t : Text) : Option Text := start.isPrefixOf? t

/-- The text before the first occurrence of `part`, and the text after it. -/
def cutAt? (part : Text) : Text → Option (Text × Text)
  | [] => if part.isEmpty then some ([], []) else none
  | c :: r =>
    match after? part (c :: r) with
    | some rest => some ([], rest)
    | none => (cutAt? part r).map fun (before, rest) => (c :: before, rest)

def unifyLineEnds : Text → Text
  | '\r' :: '\n' :: r => '\n' :: unifyLineEnds r
  | '\r' :: r => '\n' :: unifyLineEnds r
  | c :: r => c :: unifyLineEnds r
  | [] => []

/-- The text after the last `c`, or the whole text. -/
def afterLast (c : Char) (t : Text) : Text := (t.reverse.takeWhile (· != c)).reverse

def trimEnd (p : Char → Bool) (t : Text) : Text := (t.reverse.dropWhile p).reverse

def trim (p : Char → Bool) (t : Text) : Text := trimEnd p (t.dropWhile p)

def includes (part : Text) : Text → Bool
  | [] => part.isEmpty
  | c :: r => part.isPrefixOf (c :: r) || includes part r

/-- Code-point order on texts, shorter first where one continues the other. -/
def le : Text → Text → Bool
  | [], _ => true
  | _ :: _, [] => false
  | c :: r, d :: s => if c = d then le r s else c.val < d.val

@[simp] theorem piecesBy_ne_nil (p : Char → Bool) (t : Text) : piecesBy p t ≠ [] := by
  induction t with
  | nil => simp [piecesBy]
  | cons c r ih =>
    unfold piecesBy
    split
    · simp
    · cases h : piecesBy p r with
      | nil => exact absurd h ih
      | cons a l => simp

@[simp] theorem pieces_ne_nil (c : Char) (t : Text) : pieces c t ≠ [] := piecesBy_ne_nil _ t

theorem joined_cons_head (separator t : Text) (c : Char) (rest : List Text) :
    joined separator ((c :: t) :: rest) = c :: joined separator (t :: rest) := by
  cases rest <;> rfl

@[simp] theorem joined_pieces (c : Char) (t : Text) : joined [c] (pieces c t) = t := by
  induction t with
  | nil => rfl
  | cons d r ih =>
    unfold pieces piecesBy
    unfold pieces at ih
    cases h : piecesBy (· == c) r with
    | nil => exact absurd h (piecesBy_ne_nil _ r)
    | cons a l =>
      rw [h] at ih
      by_cases hd : d = c
      · simp [hd, joined, ih]
      · simp [hd, joined_cons_head, ih]

/-! ### What a cut leaves is the end of the text -/

theorem suffix_of_cut {c : Char} {t inner rest : Text} (h : cut c t = (inner, some rest)) :
    rest <:+ t := by
  have tail : (t.dropWhile (· != c)).tail? = some rest := congrArg Prod.snd h
  have ends := List.dropWhile_suffix (· != c) (l := t)
  cases hu : t.dropWhile (· != c) with
  | nil => simp [hu] at tail
  | cons d u =>
    rw [hu] at tail ends
    cases tail
    exact (List.suffix_cons _ _).trans ends

theorem append_of_after? {start t rest : Text} (h : after? start t = some rest) :
    start ++ rest = t := by
  induction start generalizing t with
  | nil => cases t <;> exact (Option.some.inj h).symm
  | cons a start ih =>
    cases t with
    | nil => cases h
    | cons b t =>
      by_cases hab : a = b
      · subst hab
        have inner : after? start t = some rest := by
          rw [← h]
          exact (if_pos (beq_self_eq_true a)).symm
        rw [List.cons_append, ih inner]
      · have none : after? (a :: start) (b :: t) = none := if_neg (by simpa using hab)
        rw [none] at h
        cases h

theorem suffix_of_after? {start t rest : Text} (h : after? start t = some rest) : rest <:+ t :=
  ⟨start, append_of_after? h⟩

theorem suffix_of_cutAt? {part t inner rest : Text} (h : cutAt? part t = some (inner, rest)) :
    rest <:+ t := by
  induction t generalizing inner with
  | nil =>
    unfold cutAt? at h
    split at h <;> simp_all
  | cons c r ih =>
    unfold cutAt? at h
    split at h
    · next found =>
      cases h
      exact suffix_of_after? found
    · obtain ⟨⟨before, rest'⟩, hr, h⟩ := Option.map_eq_some_iff.1 h
      cases h
      exact (ih hr).trans (List.suffix_cons c r)

end Text

end ImageFiling
