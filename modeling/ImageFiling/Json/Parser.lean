import ImageFiling.Json.Basic

/-!
# Reading JSON

A JSON text is one value between white space. `NaN`, `Infinity` and `-Infinity` are read as
doubles; a numeral without fraction and exponent is an integer, of at most `Text.digitLimit`
digits. Of several members with one name the last value counts. An escaped half of a surrogate pair
that stands alone would be no text, and is read as U+FFFD.
-/

namespace ImageFiling.Json

def isSpace (c : Char) : Bool := c == ' ' || c == '\t' || c == '\n' || c == '\r'

def skipSpace (t : Text) : Text := t.dropWhile isSpace

def codeUnit? (digits : Text) : Option Nat :=
  digits.foldlM (fun n c => (digit? c).map (16 * n + ·)) 0
where
  digit? (c : Char) : Option Nat :=
    if c.isDigit then some (c.toNat - 48)
    else if 'a' ≤ c ∧ c ≤ 'f' then some (c.toNat - 87)
    else if 'A' ≤ c ∧ c ≤ 'F' then some (c.toNat - 55)
    else none

def escaped? : Char → Option Char
  | '"' => some '"'
  | '\\' => some '\\'
  | '/' => some '/'
  | 'b' => some '\x08'
  | 'f' => some '\x0c'
  | 'n' => some '\n'
  | 'r' => some '\r'
  | 't' => some '\t'
  | _ => none

/-- A unit of a string: a character, or half of one written as an escape. -/
inductive Unit16 where
  | char (c : Char)
  | high (n : Nat)
  | low (n : Nat)

def Unit16.ofNat (n : Nat) : Unit16 :=
  if 0xD800 ≤ n ∧ n < 0xDC00 then .high (n - 0xD800)
  else if 0xDC00 ≤ n ∧ n < 0xE000 then .low (n - 0xDC00)
  else .char (Char.ofNat n)

/-- The characters of the units: two halves make one, and a half alone is U+FFFD. -/
def joinUnits : List Unit16 → Text
  | .high h :: .low l :: r => Char.ofNat (0x10000 + h * 0x400 + l) :: joinUnits r
  | .char c :: r => c :: joinUnits r
  | _ :: r => '\uFFFD' :: joinUnits r
  | [] => []

/-- The units of a string after its opening quote, and the text after its closing one. -/
def readUnits : Text → Option (List Unit16 × Text)
  | [] => none
  | '"' :: r => some ([], r)
  | '\\' :: 'u' :: a :: b :: c :: d :: r => do
    let n ← codeUnit? [a, b, c, d]
    let (units, rest) ← readUnits r
    some (Unit16.ofNat n :: units, rest)
  | '\\' :: e :: r => do
    let c ← escaped? e
    let (units, rest) ← readUnits r
    some (.char c :: units, rest)
  | c :: r =>
    if c.toNat < 0x20 ∨ c = '\\' then none
    else do
      let (units, rest) ← readUnits r
      some (.char c :: units, rest)

def readString (t : Text) : Option (Text × Text) :=
  (readUnits t).map fun (units, rest) => (joinUnits units, rest)

/-- A fraction: the digits after a point, if there are any. -/
def readFraction : Text → Option (Text × Text)
  | '.' :: r =>
    let digits := r.takeWhile Char.isDigit
    if digits.isEmpty then none else some (digits, r.dropWhile Char.isDigit)
  | _ => none

def readExponent : Text → Option (Int × Text)
  | e :: r =>
    if e = 'e' ∨ e = 'E' then
      let (negative, r) := Text.splitSign r
      let digits := r.takeWhile Char.isDigit
      if digits.isEmpty then none
      else some (Text.withSign negative (Text.value digits), r.dropWhile Char.isDigit)
    else none
  | [] => none

def readUnsigned (negative : Bool) (t : Text) : Option (Number × Text) :=
  let whole := match t with
    | '0' :: _ => ['0']
    | _ => t.takeWhile Char.isDigit
  let rest := t.drop whole.length
  if whole.isEmpty then none
  else
    let fraction := readFraction rest
    let rest := (fraction.map (·.2)).getD rest
    let exponent := readExponent rest
    let rest := (exponent.map (·.2)).getD rest
    if fraction.isNone ∧ exponent.isNone then
      if whole.length > Text.digitLimit then none
      else some (.int (Text.withSign negative (Text.value whole)), rest)
    else
      let places := (fraction.map (·.1)).getD []
      let power := (exponent.map (·.1)).getD 0 - places.length
      some (.double (Double.ofDecimal negative (Text.value (whole ++ places)) power), rest)

def words : List (Text × Json) :=
  [("null", .null), ("true", .bool true), ("false", .bool false),
    ("NaN", .number (.double .notANumber)), ("Infinity", .number (.double (.infinite false))),
    ("-Infinity", .number (.double (.infinite true)))]

def readScalar (t : Text) : Option (Json × Text) :=
  match words.findSome? fun (word, v) => (Text.after? word t).map (v, ·) with
  | some found => some found
  | none =>
    let (negative, r) : Bool × Text := match t with
      | '-' :: r => (true, r)
      | _ => (false, t)
    (readUnsigned negative r).map fun (x, rest) => (.number x, rest)

mutual

/-- A value at the start of the text, and the text after it; the first argument bounds the depth of
the reading. -/
def readValue : Nat → Text → Option (Json × Text)
  | 0, _ => none
  | fuel + 1, t =>
    match t with
    | '"' :: r => (readString r).map fun (s, rest) => (.text s, rest)
    | '[' :: r =>
      match skipSpace r with
      | ']' :: rest => some (.array [], rest)
      | r => (readItems fuel r).map fun (items, rest) => (.array items, rest)
    | '\x7b' :: r =>
      match skipSpace r with
      | '\x7d' :: rest => some (.object [], rest)
      | r => (readMembers fuel r).map fun (members, rest) =>
          (.object (Entries.putAll [] members), rest)
    | t => readScalar t

def readItems : Nat → Text → Option (List Json × Text)
  | 0, _ => none
  | fuel + 1, t => do
    let (v, rest) ← readValue fuel t
    match skipSpace rest with
    | ']' :: rest => some ([v], rest)
    | ',' :: rest => do
      let (items, rest) ← readItems fuel (skipSpace rest)
      some (v :: items, rest)
    | _ => none

def readMembers : Nat → Text → Option (Members × Text)
  | 0, _ => none
  | fuel + 1, t =>
    match t with
    | '"' :: r => do
      let (name, rest) ← readString r
      match skipSpace rest with
      | ':' :: rest => do
        let (v, rest) ← readValue fuel (skipSpace rest)
        match skipSpace rest with
        | '\x7d' :: rest => some ([(name, v)], rest)
        | ',' :: rest => do
          let (members, rest) ← readMembers fuel (skipSpace rest)
          some ((name, v) :: members, rest)
        | _ => none
      | _ => none
    | _ => none

end

def parse? (t : Text) : Option Json := do
  let (v, rest) ← readValue (2 * t.length + 2) (skipSpace t)
  if (skipSpace rest).isEmpty then some v else none

end ImageFiling.Json
