import ImageFiling.Naming.Parameter

/-!
# Which patterns are accepted

A pattern is accepted if its braces are well-formed, its tokens are parameters of the field, and
the names that it forms hold no character that file systems refuse.
-/

namespace ImageFiling.Naming

/-- Parameters that every field has, by their names. -/
def commonNames : List Text := ["now", "today", "host", "title"]

/-- Beginnings of parameters that take any text that is not empty. -/
def openPrefixes : List Text := ["now-", "query-"]

/-- Whether a token is a parameter of a field; its first and last characters are taken as the
braces. -/
def isSupported (field : TemplateField) (token : Text) : Except Text.LongNumeral Bool :=
  let content := (token.drop 1).dropLast
  if commonNames.contains content then .ok true
  else if content = "url" then .ok (field = .description)
  else if openPrefixes.any fun start =>
      start.isPrefixOf content && start.length < content.length then .ok true
  else match Text.after? "path-" content with
    | some number =>
      if Text.isNumeral number then (Text.readNumeral number).map (0 < ·) else .ok false
    | none => .ok false

/-- A character that file systems refuse in a name. -/
def isRefused (c : Char) : Bool :=
  c.toNat < 0x20 || "<>:\"/\\|?*".toList.contains c

/-- The text without one line feed at its end. -/
def dropFinalLineFeed (t : Text) : Text :=
  if t.getLast? = some '\n' then t.dropLast else t

/-- Whether a text can be a file name; one line feed at its end does not count. -/
def isFileName (t : Text) : Bool := !t.isEmpty && (dropFinalLineFeed t).all (!isRefused ·)

/-- The first fault of the tokens of a pattern. -/
def tokenFault? (field : TemplateField) :
    List Text → Except Text.LongNumeral (Option PatternFault)
  | [] => .ok none
  | token :: rest => do
    if !(← isSupported field token) then return some (.unsupported token)
    if !isFileName token then return some (.tokenCharacters token)
    tokenFault? field rest

def plainFault? (field : TemplateField) (pattern : Text) : Option PatternFault :=
  match field with
  | .directory =>
    if pattern.length > 1 then
      ((Text.pieces '/' (pattern.drop 1)).find? (!isFileName ·)).map .directoryCharacters
    else none
  | .fileName => if isFileName pattern then none else some .fileNameCharacters
  | .description => none

def patternFault? (field : TemplateField) (pattern : Text) :
    Except Text.LongNumeral (Option PatternFault) :=
  if field = .directory ∧ pattern.head? ≠ some '/' then .ok (some .notRooted)
  else match tokens? pattern with
    | none => .ok (some .malformed)
    | some tokens => do
      match ← tokenFault? field tokens with
      | some f => return some f
      | none => return plainFault? field pattern

def templateFaults (t : Template) :
    Except Text.LongNumeral (List (TemplateField × PatternFault)) :=
  [TemplateField.directory, .fileName, .description].foldlM
    (fun faults field => do
      match t.pattern? field with
      | some (c :: pattern) =>
        match ← patternFault? field (c :: pattern) with
        | some f => return faults ++ [(field, f)]
        | none => return faults
      | _ => return faults) []

end ImageFiling.Naming
