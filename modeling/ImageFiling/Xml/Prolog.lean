import ImageFiling.Xml.Markup

/-!
# The prolog of a document

What stands before the first element: a declaration, comments and instructions, and a document type
of which the entities are kept.
-/

namespace ImageFiling.Xml

/-- The text after some markup: the beginning is checked and white space has to follow. -/
def afterWord? (word t : Text) : Option Text :=
  match Text.after? word t with
  | some (c :: r) => if isSpace c then some (skipSpace r) else none
  | _ => none

theorem suffix_of_afterWord? {word t rest : Text} (h : afterWord? word t = some rest) :
    rest <:+ t := by
  unfold afterWord? at h
  split at h
  · next found =>
    split at h
    · cases h
      exact (skipSpace_suffix _).trans
        ((List.suffix_cons _ _).trans (Text.suffix_of_after? found))
    · cases h
  · cases h

def isSettingChar (c : Char) : Bool := c.isAlphanum || c == '.' || c == '_' || c == '-'

def readSetting (name t : Text) : Option (Text × Text) :=
  match (Text.after? name t).map skipSpace with
  | some ('=' :: r) => (readLiteral (skipSpace r)).filter (·.1.all isSettingChar)
  | _ => none

def isEncodingName (t : Text) : Bool := t.head?.any Char.isAlpha

def skipSetting (name : Text) (valid : Text → Bool) (t : Text) : Option Text :=
  if t.head?.any isSpace then
    match readSetting name (skipSpace t) with
    | some (value, rest) => if valid value then some rest else none
    | none => some t
  else some t

def skipDeclaration (t : Text) : Option Text :=
  match afterWord? "<?xml" t with
  | none => some t
  | some r => do
    let (_, r) ← readSetting "version" r
    let r ← skipSetting "encoding" isEncodingName r
    let r ← skipSetting "standalone" (fun v => v = "yes" || v = "no") r
    Text.after? "?>" (skipSpace r)

def isPublicChar (c : Char) : Bool :=
  c.isAlphanum || " \r\n-'()+,./:=?;!*#@$_%".toList.contains c

def skipOutside (t : Text) : Option Text :=
  match afterWord? "SYSTEM" t, afterWord? "PUBLIC" t with
  | some r, _ => (readLiteral r).map (·.2)
  | none, some r =>
    match readLiteral r with
    | some (name, r) =>
      if name.all isPublicChar && r.head?.any isSpace then (readLiteral (skipSpace r)).map (·.2)
      else none
    | none => none
  | none, none => none

theorem suffix_of_skipOutside {t rest : Text} (h : skipOutside t = some rest) : rest <:+ t := by
  unfold skipOutside at h
  split at h
  · next start =>
    obtain ⟨⟨_, _⟩, read, h⟩ := Option.map_eq_some_iff.1 h
    cases h
    exact (suffix_of_readLiteral read).trans (suffix_of_afterWord? start)
  · next start =>
    split at h
    · next first =>
      split at h
      · obtain ⟨⟨_, _⟩, read, h⟩ := Option.map_eq_some_iff.1 h
        cases h
        exact (suffix_of_readLiteral read).trans ((skipSpace_suffix _).trans
          ((suffix_of_readLiteral first).trans (suffix_of_afterWord? start)))
      · cases h
    · cases h
  · cases h

/-- What stands for a reference in the text of an entity: a numbered character for itself, any other
reference as it is written. -/
def keptReference (inner : Text) : Option Text :=
  match referenceOf? inner with
  | none => none
  | some (.char d) => some (if inner.head? = some '#' then [d] else '&' :: inner ++ [';'])
  | some (.entity _) => some ('&' :: inner ++ [';'])

/-- The text of an entity: references to numbered characters are replaced, others stay. -/
def entityValue (t : Text) : Option Text :=
  match t with
  | [] => some []
  | c :: r =>
    if c = '%' then none
    else if c = '&' then
      match h : Text.cut ';' r with
      | (inner, some rest) => do
        have := (Text.suffix_of_cut h).length_le
        let value ← keptReference inner
        (entityValue rest).map (value ++ ·)
      | (_, none) => none
    else (entityValue r).map (c :: ·)
termination_by t.length

/-- The text after the bracket that closes a declaration; quoted text is passed over. -/
def skipDeclared (t : Text) : Option Text :=
  match t with
  | [] => none
  | c :: r =>
    if c = '>' then some r
    else if c = '"' ∨ c = '\'' then
      match h : Text.cut c r with
      | (_, some rest) =>
        have := (Text.suffix_of_cut h).length_le
        skipDeclared rest
      | (_, none) => none
    else if c = '<' then none
    else skipDeclared r
termination_by t.length

theorem length_lt_of_skipDeclared {t rest : Text} (h : skipDeclared t = some rest) :
    rest.length < t.length := by
  fun_induction skipDeclared t with
  | case1 => cases h
  | case2 =>
    cases h
    simp
  | case3 c r _ _ _ _ _ shorter ih =>
    have := ih h
    simp only [List.length_cons]
    omega
  | case4 => cases h
  | case5 => cases h
  | case6 c r _ _ _ ih =>
    have := ih h
    simp only [List.length_cons]
    omega

def declarationEnd (t : Text) : Option Text := Text.after? ">" (skipSpace t)

theorem suffix_of_declarationEnd {t rest : Text} (h : declarationEnd t = some rest) :
    rest <:+ t :=
  (Text.suffix_of_after? h).trans (skipSpace_suffix t)

def skipNotation (t : Text) : Option Text :=
  match if t.head?.any isSpace then afterWord? "NDATA" (skipSpace t) else none with
  | some r => (readSimpleName r).map (·.2)
  | none => some t

theorem suffix_of_skipNotation {t rest : Text} (h : skipNotation t = some rest) : rest <:+ t := by
  unfold skipNotation at h
  split at h
  · next start =>
    obtain ⟨⟨_, _⟩, read, h⟩ := Option.map_eq_some_iff.1 h
    cases h
    split at start
    · exact (suffix_of_readSimpleName read).trans
        ((suffix_of_afterWord? start).trans (skipSpace_suffix t))
    · cases start
  · cases h
    exact List.suffix_rfl

def readMeaning (t : Text) : Option (Option Text × Text) :=
  match readLiteral t with
  | some (value, r) => do
    let value ← entityValue value
    (declarationEnd r).map (some value, ·)
  | none => do
    let r ← skipOutside t
    let r ← skipNotation r
    (declarationEnd r).map (none, ·)

theorem suffix_of_readMeaning {t rest : Text} {value : Option Text}
    (h : readMeaning t = some (value, rest)) : rest <:+ t := by
  unfold readMeaning at h
  split at h
  · next read =>
    obtain ⟨_, _, h⟩ := Option.bind_eq_some_iff.1 h
    obtain ⟨_, closed, h⟩ := Option.map_eq_some_iff.1 h
    cases h
    exact (suffix_of_declarationEnd closed).trans (suffix_of_readLiteral read)
  · obtain ⟨_, outside, h⟩ := Option.bind_eq_some_iff.1 h
    obtain ⟨_, noted, h⟩ := Option.bind_eq_some_iff.1 h
    obtain ⟨_, closed, h⟩ := Option.map_eq_some_iff.1 h
    cases h
    exact (suffix_of_declarationEnd closed).trans
      ((suffix_of_skipNotation noted).trans (suffix_of_skipOutside outside))

/-- The declaration of an entity after its keyword: name and text, if it has a text of its own and is
one for the content, and the text after the declaration. -/
def readEntity (t : Text) : Option (Option (Text × Text) × Text) := do
  let inner := afterWord? "%" t
  let (name, r) ← readSimpleName (inner.getD t)
  if r.head?.any isSpace then
    (readMeaning (skipSpace r)).map fun (value, r) =>
      (if inner.isSome then none else value.map (name, ·), r)
  else none

theorem suffix_of_readEntity {t rest : Text} {entity : Option (Text × Text)}
    (h : readEntity t = some (entity, rest)) : rest <:+ t := by
  obtain ⟨⟨name, afterName⟩, named, h⟩ := Option.bind_eq_some_iff.1 h
  have before : (afterWord? "%" t).getD t <:+ t := by
    cases start : afterWord? "%" t with
    | none => exact List.suffix_rfl
    | some r => exact suffix_of_afterWord? start
  dsimp only at h
  split at h
  · obtain ⟨⟨_, _⟩, read, h⟩ := Option.map_eq_some_iff.1 h
    cases h
    exact (suffix_of_readMeaning read).trans ((skipSpace_suffix afterName).trans
      ((suffix_of_readSimpleName named).trans before))
  · cases h

def readDeclaration (t : Text) : Option (Option (Text × Text) × Text) :=
  match Text.after? "--" t, afterWord? "ENTITY" t with
  | some r, _ => (skipComment r).map (none, ·)
  | none, some r => readEntity r
  | none, none =>
    if ["ELEMENT", "ATTLIST", "NOTATION"].any fun word => (afterWord? word t).isSome then
      (skipDeclared t).map (none, ·)
    else none

theorem length_le_of_readDeclaration {t rest : Text} {entity : Option (Text × Text)}
    (h : readDeclaration t = some (entity, rest)) : rest.length ≤ t.length := by
  unfold readDeclaration at h
  split at h
  · next start =>
    obtain ⟨_, skipped, h⟩ := Option.map_eq_some_iff.1 h
    cases h
    exact ((suffix_of_skipComment skipped).trans (Text.suffix_of_after? start)).length_le
  · next start => exact ((suffix_of_readEntity h).trans (suffix_of_afterWord? start)).length_le
  · split at h
    · obtain ⟨_, skipped, h⟩ := Option.map_eq_some_iff.1 h
      cases h
      exact Nat.le_of_lt (length_lt_of_skipDeclared skipped)
    · cases h

def readDeclared (t : Text) : Option (Option (Text × Text) × Text) :=
  match t with
  | '%' :: r => do
    let (_, r) ← readSimpleName r
    (Text.after? ";" r).map (none, ·)
  | '<' :: '?' :: r => (skipInstruction r).map (none, ·)
  | '<' :: '!' :: r => readDeclaration r
  | _ => none

theorem length_lt_of_readDeclared {t rest : Text} {entity : Option (Text × Text)}
    (h : readDeclared t = some (entity, rest)) : rest.length < t.length := by
  unfold readDeclared at h
  split at h
  · obtain ⟨⟨_, _⟩, named, h⟩ := Option.bind_eq_some_iff.1 h
    obtain ⟨_, closed, h⟩ := Option.map_eq_some_iff.1 h
    cases h
    exact Nat.lt_succ_of_le
      ((Text.suffix_of_after? closed).trans (suffix_of_readSimpleName named)).length_le
  · obtain ⟨_, skipped, h⟩ := Option.map_eq_some_iff.1 h
    cases h
    exact Nat.lt_succ_of_le (Nat.le_succ_of_le (suffix_of_skipInstruction skipped).length_le)
  · exact Nat.lt_succ_of_le (Nat.le_succ_of_le (length_le_of_readDeclaration h))
  · cases h

/-- The entities of the inner declarations, of several with one name the first, and the text after
the closing bracket. -/
def readInner (known : Entities) (t : Text) : Option (Entities × Text) :=
  match skipSpace t with
  | ']' :: rest => some (known, rest)
  | _ =>
    match h : readDeclared (skipSpace t) with
    | some (declared, rest) =>
      have := length_lt_of_readDeclared h
      have := (skipSpace_suffix t).length_le
      readInner (known ++ declared.toList) rest
    | none => none
termination_by t.length

def readDocumentType (t : Text) : Option (Entities × Text) := do
  let (_, r) ← readName t
  let r := (if r.head?.any isSpace then skipOutside (skipSpace r) else none).getD r
  match skipSpace r with
  | '[' :: r =>
    let (entities, r) ← readInner [] r
    (declarationEnd r).map (entities, ·)
  | r => (declarationEnd r).map ([], ·)

def skipRemark (t : Text) : Option Text :=
  match t with
  | '<' :: '?' :: r => skipInstruction r
  | '<' :: '!' :: r => (Text.after? "--" r).bind skipComment
  | _ => none

theorem length_lt_of_skipRemark {t rest : Text} (h : skipRemark t = some rest) :
    rest.length < t.length := by
  unfold skipRemark at h
  split at h
  · exact Nat.lt_succ_of_le (Nat.le_succ_of_le (suffix_of_skipInstruction h).length_le)
  · obtain ⟨_, start, h⟩ := Option.bind_eq_some_iff.1 h
    exact Nat.lt_succ_of_le (Nat.le_succ_of_le
      ((suffix_of_skipComment h).trans (Text.suffix_of_after? start)).length_le)
  · cases h

/-- The entities declared before the first element, and the text from there on or from something
that does not belong there. -/
def readProlog (t : Text) : Option (Entities × Text) :=
  match h : skipRemark (skipSpace t) with
  | some rest =>
    have := length_lt_of_skipRemark h
    have := (skipSpace_suffix t).length_le
    readProlog rest
  | none =>
    match afterWord? "<!DOCTYPE" (skipSpace t) with
    | some r => readDocumentType r
    | none => some ([], skipSpace t)
termination_by t.length

end ImageFiling.Xml
