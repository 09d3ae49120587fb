import GraphLink.Uri.Authority
import GraphLink.Uri.Path

/-! # URIs — reading one into its parts

    `Uri.parse` reads any text, in stages: controls and spaces are dropped at both ends and tabs
    and line breaks everywhere (`strip`); the scheme is cut off; what follows is an authority and a
    path, a path alone, or an opaque text; and at the end stand a query and a fragment.

    Only the query is percent-encoded on reading, since it is the part that is read again. -/

namespace GraphLink

/-- A URI in parts. -/
structure Uri where
  /-- In lower case, without the colon. -/
  scheme : String
  userinfo : Uri.Userinfo
  host : Option Uri.Host
  port : Option UInt16
  path : List Char
  /-- Percent-encoded, without the question mark. -/
  query : Option (List Char)
  /-- Without the number sign. -/
  fragment : Option (List Char)
  deriving DecidableEq

namespace Uri

/-- Whether a character is dropped at the ends of a text. -/
def isEdge (c : Char) : Bool :=
  c.toNat ≤ 0x20

/-- Whether a character is dropped wherever it stands. -/
def isIgnored (c : Char) : Bool :=
  c == '\t' || c == '\n' || c == '\r'

/-- The characters of a text that count. -/
def strip (cs : List Char) : List Char :=
  let front := cs.dropWhile isEdge
  ((front.reverse.dropWhile isEdge).reverse).filter (fun c => !isIgnored c)

/-- Whether a character ends the path. -/
def endsPath (c : Char) : Bool :=
  c == '?' || c == '#'

/-- The query and the fragment of what stands behind the path. -/
def readTail (k : SchemeKind) (cs : List Char) : Option (List Char) × Option (List Char) :=
  let set := if k.isSpecial then Text.Percent.specialQuery else Text.Percent.query
  match cs with
  | '?' :: rest =>
      let query := Text.Percent.encode set (rest.takeWhile (· != '#'))
      match rest.dropWhile (· != '#') with
      | '#' :: fragment => (some query, some fragment)
      | _ => (some query, none)
  | '#' :: fragment => (none, some fragment)
  | _ => (none, none)

/-- A URI without an authority; `cs` follows the colon. -/
def withoutAuthority (scheme : String) (k : SchemeKind) (cs : List Char) : Uri :=
  let text := cs.takeWhile (fun c => !endsPath c)
  let path :=
    match text with
    | '/' :: rest => pathBehindSlash k rest
    | text => text
  let (query, fragment) := readTail k (cs.dropWhile (fun c => !endsPath c))
  { scheme, userinfo := {}, host := none, port := none, path, query, fragment }

/-- A URI with an authority; `cs` follows the two slashes. -/
def withAuthority (scheme : String) (k : SchemeKind) (cs : List Char) : Except Fault Uri := do
  let text := cs.takeWhile (fun c => !endsAuthority k c)
  let behind := cs.dropWhile (fun c => !endsAuthority k c)
  let authority ← Authority.parse scheme k text (!behind.isEmpty)
  let rest := authority.rest ++ behind
  let path := pathBehindAuthority k (rest.takeWhile (fun c => !endsPath c))
  let (query, fragment) := readTail k (rest.dropWhile (fun c => !endsPath c))
  pure { scheme, userinfo := authority.userinfo, host := authority.host, port := authority.port,
         path, query, fragment }

/-- A URI of a local file; `cs` follows the colon.  Two slashes announce a host, which has no port;
    a drive in its place is a path. -/
def ofFile (cs : List Char) : Except Fault Uri := do
  let isSlash := fun c => c == '/' || c == '\\'
  let (host, rest) ←
    match cs with
    | a :: b :: hostAndPath =>
        if isSlash a && isSlash b then
          let text := hostAndPath.takeWhile (fun c => !endsAuthority .file c)
          if text.isEmpty ∨ (beginsWithDrive text ∧ text.length = 2) then
            pure (none, hostAndPath)
          else do
            let host ← Host.parseDomain text
            pure (some host, hostAndPath.dropWhile (fun c => !endsAuthority .file c))
        else pure (none, cs)
    | _ => pure (none, cs)
  let path := pathBehindAuthority .file (rest.takeWhile (fun c => !endsPath c))
  let (query, fragment) := readTail .file (rest.dropWhile (fun c => !endsPath c))
  pure { scheme := "file", userinfo := {}, host, port := none, path, query, fragment }

/-- Reads a URI. -/
def parse (text : String) : Except Fault Uri :=
  match cutScheme (strip text.toList) with
  | none => .error .noScheme
  | some (scheme, rest) =>
      match SchemeKind.ofScheme scheme with
      | .file => ofFile rest
      | .web => withAuthority scheme .web (rest.dropWhile (fun c => c == '/' || c == '\\'))
      | .plain =>
          match rest with
          | '/' :: '/' :: behind => withAuthority scheme .plain behind
          | _ => .ok (withoutAuthority scheme .plain rest)

/-- The host and, behind a colon, the port, in writing. -/
def netloc (u : Uri) : List Char :=
  let host := (u.host.map Host.render).getD []
  match u.port with
  | some port => host ++ ':' :: Text.decimal port.toNat
  | none => host

end Uri
end GraphLink
