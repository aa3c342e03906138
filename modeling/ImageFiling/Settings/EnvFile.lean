import ImageFiling.Text.Blank

/-!
# Environment files

A file of statements `NAME=value`, one a line. Values may stand in quotes, in which they may go over
several lines, and may refer to names that are set before them or in the environment. A statement is
read off the start of the text; `length_readStatement_le` says that something is used up.
-/

namespace ImageFiling.EnvFile

def isInline (c : Char) : Bool := Text.isBlank c && c != '\n'

def skipExport (t : Text) : Text :=
  match Text.after? "export" t with
  | some (c :: r) => if isInline c then r.dropWhile isInline else t
  | _ => t

/-- The name of a statement, which may stand in apostrophes, and the text after it; a comment has
none. -/
def readName : Text → Option (Option Text × Text)
  | '#' :: r => some (none, '#' :: r)
  | '\'' :: r =>
    match Text.cut '\'' r with
    | (name, some rest) => if name.isEmpty then none else some (some name, rest)
    | _ => none
  | t =>
    let inName (c : Char) : Bool := c != '=' && c != '#' && !Text.isBlank c
    let name := t.takeWhile inName
    if name.isEmpty then none else some (some name, t.dropWhile inName)

/-- The text up to the closing quote, and the text after it. A quote after a backslash closes only
if no later one does. -/
def readQuoted (quote : Char) : Text → Option (Text × Text)
  | [] => none
  | c :: r =>
    if c = quote then some ([], r)
    else match c, r with
      | '\\', d :: s =>
        if d = quote then
          match readQuoted quote s with
          | some (t, rest) => some ('\\' :: d :: t, rest)
          | none => some (['\\'], s)
        else (readQuoted quote (d :: s)).map fun (t, rest) => (c :: t, rest)
      | _, r => (readQuoted quote r).map fun (t, rest) => (c :: t, rest)

def doubleEscapes : List (Char × Char) :=
  [('\\', '\\'), ('\'', '\''), ('"', '"'), ('a', '\x07'), ('b', '\x08'), ('f', '\x0c'),
    ('n', '\n'), ('r', '\r'), ('t', '\t'), ('v', '\x0b')]

def singleEscapes : List (Char × Char) := [('\\', '\\'), ('\'', '\'')]

/-- The text with escapes resolved; a backslash before any other character stays. -/
def unescape (escapes : List (Char × Char)) : Text → Text
  | '\\' :: c :: r =>
    match escapes.lookup c with
    | some d => d :: unescape escapes r
    | none => '\\' :: unescape escapes (c :: r)
  | c :: r => c :: unescape escapes r
  | [] => []

/-- The text before the first comment that has a blank in front. -/
def dropComment : Text → Text
  | [] => []
  | c :: r =>
    if Text.isBlank c && ((c :: r).dropWhile Text.isBlank).head? == some '#' then []
    else c :: dropComment r

def readValue : Text → Option (Text × Text)
  | '\'' :: r => (readQuoted '\'' r).map fun (t, rest) => (unescape singleEscapes t, rest)
  | '"' :: r => (readQuoted '"' r).map fun (t, rest) => (unescape doubleEscapes t, rest)
  | t =>
    some (Text.trimEnd Text.isBlank (dropComment (t.takeWhile (· != '\n'))),
      t.dropWhile (· != '\n'))

def afterLine (t : Text) : Text := (t.dropWhile (· != '\n')).tail

/-- The text after a comment and the end of the line, if nothing else stands before it. -/
def readLineEnd (t : Text) : Option Text :=
  match t.dropWhile isInline with
  | '#' :: r => some (afterLine r)
  | '\n' :: r => some r
  | [] => some []
  | _ => none

def readAssigned (t : Text) : Option (Option Text × Text) :=
  match t.dropWhile isInline with
  | '=' :: r => (readValue (r.dropWhile isInline)).map fun (v, rest) => (some v, rest)
  | rest => some (none, rest)

/-- The name and the value of the statement at the start, if it is in order, and the text after it. A
statement that is not is skipped with the rest of the line where that shows. -/
def readBinding (t : Text) : Option (Text × Option Text) × Text :=
  match readName t with
  | none => (none, afterLine t)
  | some (name, rest) =>
    match readAssigned rest with
    | none => (none, afterLine rest)
    | some (value, rest) =>
      match readLineEnd rest with
      | none => (none, afterLine rest)
      | some rest => (name.map (·, value), rest)

def readStatement (t : Text) : Option (Text × Option Text) × Text :=
  readBinding (skipExport (t.dropWhile Text.isBlank))

/-! ### What is left is shorter -/

theorem length_afterLine_le (t : Text) : (afterLine t).length ≤ t.length - 1 := by
  have := (List.dropWhile_suffix (· != '\n') (l := t)).length_le
  rw [afterLine, List.length_tail]
  omega

theorem suffix_skipExport (t : Text) : skipExport t <:+ t := by
  unfold skipExport
  split
  · next found =>
    split
    · exact (List.dropWhile_suffix _).trans
        ((List.suffix_cons _ _).trans (Text.suffix_of_after? found))
    · exact List.suffix_rfl
  · exact List.suffix_rfl

theorem suffix_of_readName {t rest : Text} {name : Option Text}
    (h : readName t = some (name, rest)) : rest <:+ t := by
  unfold readName at h
  split at h
  · cases h
    exact List.suffix_rfl
  · split at h
    · next found =>
      split at h
      · cases h
      · cases h
        exact (Text.suffix_of_cut found).trans (List.suffix_cons _ _)
    · cases h
  · dsimp only at h
    split at h
    · cases h
    · cases h
      exact List.dropWhile_suffix _

theorem suffix_of_readQuoted {quote : Char} {t inner rest : Text}
    (h : readQuoted quote t = some (inner, rest)) : rest <:+ t := by
  fun_induction readQuoted quote t generalizing inner with
  | case1 => cases h
  | case2 =>
    cases h
    exact List.suffix_cons _ _
  | case3 _ _ _ found _ ih =>
    cases h
    exact (ih found).trans ⟨['\\', quote], rfl⟩
  | case4 =>
    cases h
    exact ⟨['\\', quote], rfl⟩
  | case5 _ _ _ _ ih =>
    obtain ⟨⟨_, _⟩, found, h⟩ := Option.map_eq_some_iff.1 h
    cases h
    exact (ih found).trans (List.suffix_cons _ _)
  | case6 _ _ _ _ ih =>
    obtain ⟨⟨_, _⟩, found, h⟩ := Option.map_eq_some_iff.1 h
    cases h
    exact (ih found).trans (List.suffix_cons _ _)

theorem suffix_of_readValue {t value rest : Text} (h : readValue t = some (value, rest)) :
    rest <:+ t := by
  unfold readValue at h
  split at h
  · obtain ⟨⟨_, _⟩, found, h⟩ := Option.map_eq_some_iff.1 h
    cases h
    exact (suffix_of_readQuoted found).trans (List.suffix_cons _ _)
  · obtain ⟨⟨_, _⟩, found, h⟩ := Option.map_eq_some_iff.1 h
    cases h
    exact (suffix_of_readQuoted found).trans (List.suffix_cons _ _)
  · cases h
    exact List.dropWhile_suffix _

theorem suffix_of_readAssigned {t rest : Text} {value : Option Text}
    (h : readAssigned t = some (value, rest)) : rest <:+ t := by
  have start := List.dropWhile_suffix isInline (l := t)
  unfold readAssigned at h
  split at h
  · next sign =>
    obtain ⟨⟨_, _⟩, found, h⟩ := Option.map_eq_some_iff.1 h
    cases h
    rw [sign] at start
    exact (suffix_of_readValue found).trans
      ((List.dropWhile_suffix _).trans ((List.suffix_cons _ _).trans start))
  · cases h
    exact start

theorem length_of_readLineEnd {t rest : Text} (h : readLineEnd t = some rest) :
    rest.length ≤ t.length - 1 := by
  have start := (List.dropWhile_suffix isInline (l := t)).length_le
  unfold readLineEnd at h
  split at h
  · next r mark =>
    cases h
    have := length_afterLine_le r
    rw [mark, List.length_cons] at start
    omega
  · next mark =>
    cases h
    rw [mark, List.length_cons] at start
    omega
  · cases h
    exact Nat.zero_le _
  · cases h

theorem length_readBinding_le (t : Text) : (readBinding t).2.length ≤ t.length - 1 := by
  unfold readBinding
  split
  · exact length_afterLine_le t
  · next name rest named =>
    have := (suffix_of_readName named).length_le
    split
    · have := length_afterLine_le rest
      dsimp only
      omega
    · next value rest assigned =>
      have := (suffix_of_readAssigned assigned).length_le
      split
      · have := length_afterLine_le rest
        dsimp only
        omega
      · next ending =>
        have := length_of_readLineEnd ending
        dsimp only
        omega

theorem length_readStatement_le (t : Text) : (readStatement t).2.length ≤ t.length - 1 := by
  have := length_readBinding_le (skipExport (t.dropWhile Text.isBlank))
  have := ((suffix_skipExport (t.dropWhile Text.isBlank)).trans
    (List.dropWhile_suffix Text.isBlank)).length_le
  unfold readStatement
  omega

/-! ### The whole file -/

/-- The names and values of a file, in order; a name without an equals sign has no value. -/
def statements (t : Text) : List (Text × Option Text) :=
  match t with
  | [] => []
  | c :: r =>
    have := length_readStatement_le (c :: r)
    (readStatement (c :: r)).1.toList ++ statements (readStatement (c :: r)).2
termination_by t.length
decreasing_by
  simp only [List.length_cons] at this ⊢
  omega

/-- A reference `\x7bname\x7d` or `\x7bname:-fallback\x7d` after its dollar sign: name and
fallback, and the text after it. -/
def readReference : Text → Option ((Text × Text) × Text)
  | '\x7b' :: r =>
    let inName (c : Char) : Bool := c != '\x7d' && c != ':'
    let name := r.takeWhile inName
    match r.dropWhile inName with
    | '\x7d' :: rest => some ((name, []), rest)
    | ':' :: '-' :: rest =>
      match Text.cut '\x7d' rest with
      | (fallback, some rest) => some ((name, fallback), rest)
      | _ => none
    | _ => none
  | _ => none

theorem suffix_of_readReference {t rest : Text} {reference : Text × Text}
    (h : readReference t = some (reference, rest)) : rest <:+ t := by
  unfold readReference at h
  split at h
  · next r =>
    have start := (List.dropWhile_suffix (fun c => c != '\x7d' && c != ':') (l := r)).trans
      (List.suffix_cons '\x7b' r)
    dsimp only at h
    split at h
    · next mark =>
      cases h
      rw [mark] at start
      exact (List.suffix_cons _ _).trans start
    · next mark =>
      split at h
      · next found =>
        cases h
        rw [mark] at start
        exact (Text.suffix_of_cut found).trans
          ((List.suffix_cons _ _).trans ((List.suffix_cons _ _).trans start))
      · cases h
    · cases h
  · cases h

def interpolate (known : Text → Option Text) : Text → Text
  | [] => []
  | c :: r =>
    if c = '$' then
      match h : readReference r with
      | some ((name, fallback), rest) =>
        have := (suffix_of_readReference h).length_le
        (known name).getD fallback ++ interpolate known rest
      | none => c :: interpolate known r
    else c :: interpolate known r
termination_by t => t.length

/-- The values of a file for an environment; a later statement of a name counts. -/
def values (environment : List (Text × Text)) (t : Text) : List (Text × Option Text) :=
  (statements (Text.unifyLineEnds t)).foldl
    (fun (seen : List (Text × Option Text)) (name, value) =>
      let known (n : Text) : Option Text :=
        match seen.reverse.lookup n with
        | some v => some (v.getD [])
        | none => environment.reverse.lookup n
      seen ++ [(name, value.map (interpolate known))])
    []

end ImageFiling.EnvFile
