import GraphLink.Text.Cut
import GraphLink.Uri.Host
import GraphLink.Uri.Scheme

/-! # The authority part of a URI — user information, host and port

    The authority is the text between `//` and the first `/`, `?` or `#` (under a web scheme also
    `\`).  User information reaches to its last `@` and is a user name and, behind a colon, a
    password.  The host reaches to the first colon outside brackets, and the port is what follows.

    User information that is only a colon, or nothing at all, counts as none. -/

namespace GraphLink.Uri

/-- Whether a character ends the authority. -/
def endsAuthority (k : SchemeKind) (c : Char) : Bool :=
  c == '/' || c == '?' || c == '#' || (c == '\\' && k.isSpecial)

/-- User name and password as they are written. -/
structure Userinfo where
  username : List Char := []
  password : List Char := []
  deriving DecidableEq, Repr

namespace Userinfo

/-- Whether there is neither a user name nor a password. -/
def isEmpty (u : Userinfo) : Bool :=
  u.username.isEmpty && u.password.isEmpty

/-- User information in writing: the password begins behind the first colon. -/
def ofText (cs : List Char) : Userinfo :=
  match Text.cutFirst ':' cs with
  | some (username, password) => ⟨username, password⟩
  | none => ⟨cs, []⟩

end Userinfo

/-- The user information of an authority, and the rest of it.  `followed` says whether the URI goes
    on behind the authority: a lone `@` with nothing behind it is then a missing host. -/
def cutUserinfo (authority : List Char) (followed : Bool) : Except Fault (Userinfo × List Char) :=
  match Text.cutLast '@' authority with
  | none => .ok ({}, authority)
  | some ([], []) => if followed then .error .emptyHost else .ok ({}, [])
  | some (userinfo, hostport) => .ok (Userinfo.ofText userinfo, hostport)

/-- The host text and what follows: a colon outside brackets ends it.  `inside` says whether a
    bracket is open. -/
def cutHost (inside : Bool) : List Char → List Char × List Char
  | [] => ([], [])
  | c :: rest =>
      if c = ':' ∧ inside = false then ([], c :: rest)
      else
        let inside := if c = '[' then true else if c = ']' then false else inside
        let (host, after) := cutHost inside rest
        (c :: host, after)

/-- The port behind a colon, and what is left of the authority.  Digits are read up to a backslash
    or the end, leading zeros included; no digits are no port. -/
def readPort (scheme : String) (cs : List Char) : Except Fault (Option UInt16 × List Char) :=
  let digits := cs.takeWhile Char.isDigit
  let rest := cs.dropWhile Char.isDigit
  let port := (Text.readNat 10 digits).getD 0
  if 65535 < port ∨ (rest ≠ [] ∧ rest.head? ≠ some '\\') then .error .badPort
  else if digits.isEmpty ∨ impliedPort scheme = some port then .ok (none, rest)
  else .ok (some (UInt16.ofNat port), rest)

/-- Host, port and user information, and what the port left of the authority's text. -/
structure Authority where
  userinfo : Userinfo := {}
  host : Option Host := none
  port : Option UInt16 := none
  rest : List Char := []
  deriving DecidableEq

namespace Authority

/-- The host of a host text under a scheme of some kind; none for no text. -/
def parseHost (k : SchemeKind) (cs : List Char) : Except Fault (Option Host) :=
  match k with
  | .plain => Host.parseOpaque cs
  | _ => if cs.isEmpty then .error .emptyHost else (Host.parseDomain cs).map some

/-- Reads an authority. -/
def parse (scheme : String) (k : SchemeKind) (cs : List Char) (followed : Bool) :
    Except Fault Authority := do
  let (userinfo, hostport) ← cutUserinfo cs followed
  let (hostText, after) := cutHost false hostport
  let host ← parseHost k hostText
  let (port, rest) ←
    match after with
    | ':' :: digits => if host.isNone then .error .emptyHost else readPort scheme digits
    | _ => .ok (none, after)
  if host.isNone && !userinfo.isEmpty then .error .emptyHost
  else .ok { userinfo, host, port, rest }

end Authority
end GraphLink.Uri
