/-! # The scheme part of a URI

    A scheme is a letter, then letters, digits, `+`, `-` and `.`, up to a colon; it is put into
    lower case.  Six schemes are web schemes, with rules of their own for what follows. -/

namespace GraphLink.Uri

/-- What kind of URI a scheme announces. -/
inductive SchemeKind where
  /-- Anything that is not a web scheme. -/
  | plain
  /-- A web scheme with a network host. -/
  | web
  /-- The scheme of local files. -/
  | file
  deriving DecidableEq, Repr

namespace SchemeKind

/-- The kind of a scheme in lower case. -/
def ofScheme (scheme : String) : SchemeKind :=
  if scheme = "file" then .file
  else if scheme ∈ ["http", "https", "ws", "wss", "ftp"] then .web
  else .plain

/-- Whether a backslash does the work of a slash. -/
def isSpecial (k : SchemeKind) : Bool :=
  k != .plain

end SchemeKind

/-- The port that a web scheme implies, and that is therefore never written. -/
def impliedPort (scheme : String) : Option Nat :=
  if scheme = "http" ∨ scheme = "ws" then some 80
  else if scheme = "https" ∨ scheme = "wss" then some 443
  else if scheme = "ftp" then some 21
  else none

/-- The characters of a scheme after the first. -/
def isSchemeChar (c : Char) : Bool :=
  c.isAlphanum || c == '+' || c == '-' || c == '.'

/-- The scheme in lower case, and what follows its colon. -/
def cutScheme (cs : List Char) : Option (String × List Char) :=
  match cs with
  | [] => none
  | first :: _ =>
      if first.isAlpha then
        match cs.dropWhile isSchemeChar with
        | ':' :: rest => some (String.ofList ((cs.takeWhile isSchemeChar).map Char.toLower), rest)
        | _ => none
      else none

end GraphLink.Uri
