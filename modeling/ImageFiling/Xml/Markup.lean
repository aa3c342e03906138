import ImageFiling.Text.Numeral
import ImageFiling.Xml.Name

/-!
# Markup

The text of a document as a sequence of tags and characters. Comments and instructions are left
out, references are replaced, and so are those to entities that the document declares. Every reader
gives what it read and the rest of the text, which is no longer than the text: that is why reading
comes to an end.
-/

namespace ImageFiling.Xml

inductive Piece where
  | opening (name : Text) (attributes : List (Text × Text))
  | closing (name : Text)
  /-- Characters written as themselves. -/
  | text (t : Text)
  /-- Characters written as references or in a marked section. -/
  | literal (t : Text)
  deriving DecidableEq, Repr

inductive Reference where
  | char (c : Char)
  | entity (name : Text)
  deriving DecidableEq, Repr

def knownEntities : List (Text × Char) :=
  [("lt", '<'), ("gt", '>'), ("amp", '&'), ("quot", '"'), ("apos", '\'')]

def digitBelow? (base : Nat) (c : Char) : Option Nat :=
  let v := if c.isDigit then c.toNat - 48
    else if 'a' ≤ c ∧ c ≤ 'f' then c.toNat - 87
    else if 'A' ≤ c ∧ c ≤ 'F' then c.toNat - 55
    else base
  if v < base then some v else none

def numbered? (base : Nat) (digits : Text) : Option Char := do
  if digits.isEmpty then none
  let n ← digits.foldlM (fun n c => (digitBelow? base c).map (base * n + ·)) 0
  if isAllowed n then some (Char.ofNat n) else none

def referenceOf? (t : Text) : Option Reference :=
  match t with
  | '#' :: 'x' :: digits => (numbered? 16 digits).map .char
  | '#' :: digits => (numbered? 10 digits).map .char
  | name =>
    if isSimpleName name then
      some (((knownEntities.lookup name).map Reference.char).getD (.entity name))
    else none

def readReference (t : Text) : Option (Reference × Text) :=
  match Text.cut ';' t with
  | (inner, some rest) => (referenceOf? inner).map (·, rest)
  | (_, none) => none

theorem suffix_of_readReference {t rest : Text} {reference : Reference}
    (h : readReference t = some (reference, rest)) : rest <:+ t := by
  unfold readReference at h
  split at h
  · next found =>
    obtain ⟨_, _, h⟩ := Option.map_eq_some_iff.1 h
    cases h
    exact Text.suffix_of_cut found
  · cases h

def skipComment (t : Text) : Option Text :=
  match Text.cutAt? "--" t with
  | some (_, '>' :: rest) => some rest
  | _ => none

theorem suffix_of_skipComment {t rest : Text} (h : skipComment t = some rest) : rest <:+ t := by
  unfold skipComment at h
  split at h
  · next found =>
    cases h
    exact (List.suffix_cons _ _).trans (Text.suffix_of_cutAt? found)
  · cases h

/-- The text after an instruction whose opening mark was read. The name `xml` is reserved. -/
def skipInstruction (t : Text) : Option Text :=
  match readSimpleName t with
  | none => none
  | some (name, rest) =>
    if name.map Char.toLower = "xml" then none
    else match rest with
      | '?' :: '>' :: rest => some rest
      | c :: rest => if isSpace c then (Text.cutAt? "?>" rest).map (·.2) else none
      | [] => none

theorem suffix_of_skipInstruction {t rest : Text} (h : skipInstruction t = some rest) :
    rest <:+ t := by
  unfold skipInstruction at h
  split at h
  · cases h
  · next named =>
    refine List.IsSuffix.trans ?_ (suffix_of_readSimpleName named)
    split at h
    · cases h
    · split at h
      · cases h
        exact ⟨['?', '>'], rfl⟩
      · split at h
        · obtain ⟨⟨_, _⟩, found, h⟩ := Option.map_eq_some_iff.1 h
          cases h
          exact (Text.suffix_of_cutAt? found).trans (List.suffix_cons _ _)
        · cases h
      · cases h

abbrev Entities := List (Text × Text)

/-- An attribute's value with its references replaced, going at most `depth` entities deep. -/
def attributeValue (entities : Entities) (depth : Nat) (t : Text) : Option Text :=
  match t with
  | [] => some []
  | c :: r =>
    if c = '<' then none
    else if c = '&' then
      match h : readReference r with
      | none => none
      | some (reference, rest) => do
        have := (suffix_of_readReference h).length_le
        let value ← match reference, depth with
          | .char c, _ => some [c]
          | .entity _, 0 => none
          | .entity name, depth + 1 =>
            match entities.lookup name with
            | some value => attributeValue entities depth value
            | none => none
        (attributeValue entities depth rest).map (value ++ ·)
    else (attributeValue entities depth r).map (c :: ·)
termination_by (depth, t.length)

def readLiteral : Text → Option (Text × Text)
  | q :: r =>
    if q = '"' ∨ q = '\'' then
      match Text.cut q r with
      | (inner, some rest) => some (inner, rest)
      | (_, none) => none
    else none
  | [] => none

theorem suffix_of_readLiteral {t inner rest : Text} (h : readLiteral t = some (inner, rest)) :
    rest <:+ t := by
  unfold readLiteral at h
  split at h
  · split at h
    · split at h
      · next found =>
        cases h
        exact (Text.suffix_of_cut found).trans (List.suffix_cons _ _)
      · cases h
    · cases h
  · cases h

def readAttribute (entities : Entities) (t : Text) : Option ((Text × Text) × Text) := do
  let (name, rest) ← readName t
  match skipSpace rest with
  | '=' :: rest =>
    let (value, rest) ← readLiteral (skipSpace rest)
    let value ← attributeValue entities entities.length value
    some ((name, value), rest)
  | _ => none

theorem length_lt_of_readAttribute {entities : Entities} {t rest : Text} {a : Text × Text}
    (h : readAttribute entities t = some (a, rest)) : rest.length < t.length := by
  obtain ⟨⟨name, afterName⟩, named, h⟩ := Option.bind_eq_some_iff.1 h
  have before := ((skipSpace_suffix afterName).trans (suffix_of_readName named)).length_le
  dsimp only at h
  split at h
  · next afterSign sign =>
    obtain ⟨⟨inner, last⟩, literal, h⟩ := Option.bind_eq_some_iff.1 h
    obtain ⟨value, _, h⟩ := Option.bind_eq_some_iff.1 h
    cases h
    have after : last.length ≤ afterSign.length :=
      ((suffix_of_readLiteral literal).trans (skipSpace_suffix afterSign)).length_le
    rw [sign, List.length_cons] at before
    exact Nat.lt_of_le_of_lt after (by omega)
  · cases h

def readAttributes (entities : Entities) (t : Text) :
    Option (List (Text × Text) × Bool × Text) :=
  match skipSpace t with
  | '>' :: rest => some ([], false, rest)
  | '/' :: '>' :: rest => some ([], true, rest)
  | _ =>
    if t.head?.any isSpace then
      match h : readAttribute entities (skipSpace t) with
      | some (a, rest) =>
        have := length_lt_of_readAttribute h
        have := (skipSpace_suffix t).length_le
        (readAttributes entities rest).map fun (more, closed, rest) => (a :: more, closed, rest)
      | none => none
    else none
termination_by t.length

theorem length_le_of_readAttributes {entities : Entities} {t rest : Text}
    {attributes : List (Text × Text)} {closed : Bool}
    (h : readAttributes entities t = some (attributes, closed, rest)) :
    rest.length ≤ t.length := by
  fun_induction readAttributes entities t generalizing attributes with
  | case1 t _ start =>
    have before := (skipSpace_suffix t).length_le
    cases h
    rw [start, List.length_cons] at before
    omega
  | case2 t _ start =>
    have before := (skipSpace_suffix t).length_le
    cases h
    rw [start, List.length_cons, List.length_cons] at before
    omega
  | case3 t _ a after read shorter before _ _ ih =>
    obtain ⟨⟨more, _, _⟩, inner, h⟩ := Option.map_eq_some_iff.1 h
    cases h
    have := ih inner
    omega
  | case4 => cases h
  | case5 => cases h

/-- What stands at the start of a text: some pieces, or a reference to an entity. -/
inductive Found where
  | pieces (ps : List Piece)
  | entity (name : Text)

def readTag (entities : Entities) (t : Text) : Option (Found × Text) := do
  let (name, rest) ← readName t
  let (attributes, closed, rest) ← readAttributes entities rest
  let tag := Piece.opening name attributes
  some (.pieces (if closed then [tag, .closing name] else [tag]), rest)

def readClosing (t : Text) : Option (Found × Text) := do
  let (name, rest) ← readName t
  match skipSpace rest with
  | '>' :: rest => some (.pieces [.closing name], rest)
  | _ => none

def readMarkup (entities : Entities) (t : Text) : Option (Found × Text) :=
  match t with
  | '/' :: r => readClosing r
  | '?' :: r => (skipInstruction r).map (.pieces [], ·)
  | '!' :: r =>
    match Text.after? "--" r, Text.after? "[CDATA[" r with
    | some r, _ => (skipComment r).map (.pieces [], ·)
    | none, some r =>
      (Text.cutAt? "]]>" r).map fun (inner, rest) => (.pieces [.literal inner], rest)
    | none, none => none
  | r => readTag entities r

def readContentReference (t : Text) : Option (Found × Text) :=
  (readReference t).map fun
    | (.char c, rest) => (.pieces [.literal [c]], rest)
    | (.entity name, rest) => (.entity name, rest)

def readCharacters (c : Char) (r : Text) : Option (Found × Text) :=
  let plain (c : Char) : Bool := c != '<' && c != '&'
  let run := c :: r.takeWhile plain
  if Text.includes "]]>" run then none else some (.pieces [.text run], r.dropWhile plain)

def readFirst (entities : Entities) (c : Char) (r : Text) : Option (Found × Text) :=
  if c = '<' then readMarkup entities r
  else if c = '&' then readContentReference r
  else readCharacters c r

theorem length_le_of_readTag {entities : Entities} {t rest : Text} {found : Found}
    (h : readTag entities t = some (found, rest)) : rest.length ≤ t.length := by
  obtain ⟨⟨name, afterName⟩, named, h⟩ := Option.bind_eq_some_iff.1 h
  obtain ⟨⟨attributes, closed, last⟩, read, h⟩ := Option.bind_eq_some_iff.1 h
  cases h
  exact Nat.le_trans (length_le_of_readAttributes read) (suffix_of_readName named).length_le

theorem length_le_of_readClosing {t rest : Text} {found : Found}
    (h : readClosing t = some (found, rest)) : rest.length ≤ t.length := by
  obtain ⟨⟨name, afterName⟩, named, h⟩ := Option.bind_eq_some_iff.1 h
  have before := ((skipSpace_suffix afterName).trans (suffix_of_readName named)).length_le
  dsimp only at h
  split at h
  · next sign =>
    cases h
    rw [sign, List.length_cons] at before
    omega
  · cases h

theorem length_le_of_readMarkup {entities : Entities} {t rest : Text} {found : Found}
    (h : readMarkup entities t = some (found, rest)) : rest.length ≤ t.length := by
  unfold readMarkup at h
  split at h
  · exact Nat.le_succ_of_le (length_le_of_readClosing h)
  · obtain ⟨_, skipped, h⟩ := Option.map_eq_some_iff.1 h
    cases h
    exact Nat.le_succ_of_le (suffix_of_skipInstruction skipped).length_le
  · split at h
    · next start =>
      obtain ⟨_, skipped, h⟩ := Option.map_eq_some_iff.1 h
      cases h
      exact Nat.le_succ_of_le
        ((suffix_of_skipComment skipped).trans (Text.suffix_of_after? start)).length_le
    · next start =>
      obtain ⟨⟨_, _⟩, cut, h⟩ := Option.map_eq_some_iff.1 h
      cases h
      exact Nat.le_succ_of_le
        ((Text.suffix_of_cutAt? cut).trans (Text.suffix_of_after? start)).length_le
    · cases h
  · exact length_le_of_readTag h

theorem length_le_of_readFirst {entities : Entities} {c : Char} {r rest : Text} {found : Found}
    (h : readFirst entities c r = some (found, rest)) : rest.length ≤ r.length := by
  unfold readFirst at h
  split at h
  · exact length_le_of_readMarkup h
  · split at h
    · obtain ⟨⟨reference, _⟩, read, h⟩ := Option.map_eq_some_iff.1 h
      cases reference <;> cases h <;> exact (suffix_of_readReference read).length_le
    · dsimp only [readCharacters] at h
      split at h
      · cases h
      · cases h
        exact (List.dropWhile_suffix _).length_le

def depthAfter : Nat → List Piece → Option Nat
  | n, [] => some n
  | n, .opening _ _ :: rest => depthAfter (n + 1) rest
  | 0, .closing _ :: _ => none
  | n + 1, .closing _ :: rest => depthAfter n rest
  | n, _ :: rest => depthAfter n rest

/-- The pieces of an entity's text as they stand for a reference to it. -/
def asReference (ps : List Piece) : Option (List Piece) :=
  if depthAfter 0 ps = some 0 then
    some (.literal [] :: ps.map fun
      | .text t => .literal t
      | p => p)
  else none

/-- The pieces of a text, going at most `depth` entities deep. -/
def pieces (entities : Entities) (depth : Nat) (t : Text) : Option (List Piece) :=
  match t with
  | [] => some []
  | c :: r =>
    match h : readFirst entities c r with
    | none => none
    | some (found, rest) => do
      have := length_le_of_readFirst h
      let ps ← match found, depth with
        | .pieces ps, _ => some ps
        | .entity _, 0 => none
        | .entity name, depth + 1 =>
          match entities.lookup name with
          | some value => (pieces entities depth value).bind asReference
          | none => none
      (pieces entities depth rest).map (ps ++ ·)
termination_by (depth, t.length)

end ImageFiling.Xml
