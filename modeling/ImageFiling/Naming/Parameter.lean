import ImageFiling.Naming.Braces
import ImageFiling.Naming.Fault
import ImageFiling.Naming.Template
import ImageFiling.Time.Pattern
import ImageFiling.Url.Host
import ImageFiling.Url.Query

/-!
# Parameters

The groups of a naming pattern name parameters: parts of the page's URL, its title, and the time.
`resolve` gives the text of a parameter for a page, `substitute` that of a whole pattern.
-/

namespace ImageFiling.Naming

inductive Parameter where
  | host
  | title
  | url
  | now
  | today
  | date (pattern : Text)
  | path (number : Text)
  | query (name : Text)
  deriving DecidableEq, Repr

/-- What a pattern is filled from: the page and the time, for a field of a template. -/
structure Context where
  url : Text
  title : Text
  now : Moment
  field : TemplateField
  deriving Repr

namespace Parameter

def named : List (Text × Parameter) :=
  [("host", host), ("title", title), ("url", url), ("now", now), ("today", today)]

def ofContent? (content : Text) : Option Parameter :=
  named.lookup content <|>
  (Text.after? "now-" content).map date <|>
  (Text.after? "path-" content).map path <|>
  (Text.after? "query-" content).map query

/-- The parameter of a token; its first and last characters are taken as the braces. -/
def ofToken? (token : Text) : Option Parameter := ofContent? (token.drop 1).dropLast

/-- The part of a path with this number, counting the text before the first slash as 0. -/
def segment (number path : Text) : Except NamingFault Text :=
  if path.length ≤ 1 then .error (.shortPath number)
  else if !Text.isNumeral number then .error (.badPathNumber number)
  else do
    let n ← (Text.readNumeral number).mapError .longPathNumber
    match n, (Text.pieces '/' path)[n]? with
    | _ + 1, some s => .ok s
    | _, _ => .error (.noSegment number n)

/-- The first value of a name in a query, unless it is empty. -/
def queryValue (query name : Text) : Except NamingFault Text :=
  match Query.first? query name with
  | some (c :: value) => .ok (c :: value)
  | _ => .error (.noQueryValue name)

def formatted (m : Moment) (pattern : Text) : Except NamingFault Text :=
  (m.format pattern).mapError .time

/-- The text of a parameter, written as `token`, for a page whose URL has the parts `parts`. -/
def text (c : Context) (parts : Url) (token : Text) : Parameter → Except NamingFault Text
  | host => .ok parts.host
  | title => .ok c.title
  | url => if c.field = .description then .ok c.url else .error (.unsupported token)
  | now => formatted c.now Pattern.timestamp
  | today => formatted c.now Pattern.calendarDay
  | date pattern =>
    if pattern.isEmpty then .error (.missingFormat token) else formatted c.now pattern
  | path number => segment number parts.path
  | query name => queryValue parts.query name

end Parameter

def Context.parts (c : Context) : Except NamingFault Url := (Url.split c.url).mapError .url

def resolve (c : Context) (token : Text) : Except NamingFault Text := do
  let parts ← c.parts
  match Parameter.ofToken? token with
  | some p => p.text c parts token
  | none => .error (.unsupported token)

/-- The text of a pattern with every token replaced; what replaces a token is not looked at
again. -/
def substitute (c : Context) (pattern : Text) : Except NamingFault Text :=
  if (tokens? pattern).isNone then .error (.malformed pattern)
  else token.replace (resolve c) pattern

end ImageFiling.Naming
