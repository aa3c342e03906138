import ImageFiling.Text.Case
import ImageFiling.Text.Numeral
import ImageFiling.Url.Split

/-!
# Hosts

The host of a URL as a browser reports it: in lower case, with the port unless it is missing,
unreadable or the usual one of the scheme.
-/

namespace ImageFiling.Url

/-- The host and the port of the authority as written, without brackets. -/
def hostAndPort (url : Url) : Text × Text :=
  let info := url.authority.afterLast '@'
  match info.cut '[' with
  | (_, some bracketed) =>
    let (host, rest) := bracketed.cut ']'
    (host, ((rest.getD []).cut ':').2.getD [])
  | _ =>
    let (host, port) := info.cut ':'
    (host, port.getD [])

/-- The host in lower case, a zone after a percent sign as written; empty if there is none. -/
def hostname (url : Url) : Text :=
  let host := url.hostAndPort.1
  Text.lower (host.takeWhile (· != '%')) ++ host.dropWhile (· != '%')

def port? (url : Url) : Option Nat :=
  let port := url.hostAndPort.2
  if port.isNumeral ∧ port.length ≤ Text.digitLimit ∧ port.value ≤ 65535 then some port.value
  else none

def usualPort? (scheme : Text) : Option Nat :=
  if scheme = "http" then some 80 else if scheme = "https" then some 443 else none

/-- The host as a browser reports it. -/
def host (url : Url) : Text :=
  let name := url.hostname
  let name := if name.contains ':' then '[' :: name ++ [']'] else name
  match url.port? with
  | some port =>
    if port = 0 ∨ usualPort? url.scheme = some port then name
    else name ++ ':' :: Text.numeral port
  | none => name

def isAbsolute (url : Url) : Bool := !url.scheme.isEmpty && !url.hostname.isEmpty

end ImageFiling.Url
