import ImageFiling.Text.Quoted
import ImageFiling.Url.Address

/-!
# The parts of a URL

A URL is cut into scheme, authority, path, query and fragment. Nothing is decoded. What is refused
is an authority whose brackets do not hold an IPv6 or future address, and one with a character that
looks like a delimiter once compatibility forms are resolved.
-/

namespace ImageFiling

/-- The parts of a URL; a part that is missing is empty. -/
structure Url where
  scheme : Text
  authority : Text
  path : Text
  query : Text
  fragment : Text
  deriving DecidableEq, Repr

namespace Url

inductive Fault where
  | brackets
  /-- A future address that is not a version and a text. -/
  | futureAddress
  | notAddress (host : Text)
  | bracketedV4
  | hiddenDelimiter (authority : Text)
  deriving DecidableEq, Repr

def Fault.message : Fault → Text
  | .brackets => "Invalid IPv6 URL"
  | .futureAddress => "IPvFuture address is invalid"
  | .notAddress host => host.quoted ++ " does not appear to be an IPv4 or IPv6 address"
  | .bracketedV4 => "An IPv4 address cannot be in brackets"
  | .hiddenDelimiter authority =>
    "netloc '" ++ authority ++ "' contains invalid characters under NFKC normalization"

/-- Controls and the space, which are passed over before a URL. -/
def isLeading (c : Char) : Bool := c.toNat ≤ 0x20

/-- Tabs and line ends, which count nowhere in a URL. -/
def isSkipped (c : Char) : Bool := c == '\t' || c == '\r' || c == '\n'

def isSchemeChar (c : Char) : Bool := c.isAlphanum || c == '+' || c == '-' || c == '.'

/-- The scheme in lower case and the text after its colon, or the whole text without a scheme. -/
def splitScheme (t : Text) : Text × Text :=
  match t.cut ':' with
  | (scheme, some rest) =>
    if scheme.head?.any Char.isAlpha && scheme.all isSchemeChar then
      (scheme.map Char.toLower, rest)
    else ([], t)
  | _ => ([], t)

def endsAuthority (c : Char) : Bool := c == '/' || c == '?' || c == '#'

/-- The authority after two slashes, and the text after it. -/
def splitAuthority : Text → Text × Text
  | '/' :: '/' :: r => (r.takeWhile (!endsAuthority ·), r.dropWhile (!endsAuthority ·))
  | t => ([], t)

/-- The compatibility forms of the delimiters `/`, `?`, `#`, `@` and `:`, alone or with other
characters. -/
def delimiterForms : List Nat :=
  [0x2047, 0x2048, 0x2049, 0x2100, 0x2101, 0x2105, 0x2106, 0x2A74, 0xFE13, 0xFE16, 0xFE55, 0xFE56,
    0xFE5F, 0xFE6B, 0xFF03, 0xFF0F, 0xFF1A, 0xFF1F, 0xFF20]

def isFutureAddress (t : Text) : Bool :=
  match t with
  | 'v' :: r =>
    let digits := r.takeWhile Address.isHexDigit
    match r.dropWhile Address.isHexDigit with
    | '.' :: rest => !digits.isEmpty && !rest.isEmpty
    | _ => false
  | _ => false

def checkBracketed (host : Text) : Except Fault Unit :=
  if host.head? = some 'v' then
    if isFutureAddress host then .ok () else .error .futureAddress
  else if Address.isV4 host then .error .bracketedV4
  else if Address.isV6 host then .ok ()
  else .error (.notAddress host)

def checkBrackets (authority : Text) : Except Fault Unit :=
  match authority.contains '[', authority.contains ']' with
  | false, false => .ok ()
  | true, true =>
    match (authority.afterLast '@').cut '[' with
    | (before, some bracketed) =>
      let (host, rest) := bracketed.cut ']'
      let rest := rest.getD []
      if !before.isEmpty || (!rest.isEmpty && rest.head? != some ':') then .error .brackets
      else checkBracketed host
    | (plain, none) => checkBracketed (plain.cut ':').1
  | _, _ => .error .brackets

def checkDelimiters (authority : Text) : Except Fault Unit :=
  if authority.any (delimiterForms.contains ·.toNat) then .error (.hiddenDelimiter authority)
  else .ok ()

def split (t : Text) : Except Fault Url := do
  let (scheme, rest) := splitScheme ((t.dropWhile isLeading).filter (!isSkipped ·))
  let (authority, rest) := splitAuthority rest
  checkBrackets authority
  let (rest, fragment) := rest.cut '#'
  let (path, query) := rest.cut '?'
  checkDelimiters authority
  return ⟨scheme, authority, path, query.getD [], fragment.getD []⟩

end Url

end ImageFiling
