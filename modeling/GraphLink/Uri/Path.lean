import GraphLink.Uri.Scheme

/-! # The path part of a URI — dot segments

    A path is a slash and then segments with slashes between them.  A segment `.` is dropped and
    a segment `..` drops the one before it, both also when the points are percent-encoded; a
    dropped last segment leaves its slash behind.  A **drive** such as `C:` is never dropped. -/

namespace GraphLink.Uri

/-- Whether a segment stands for the place where it is. -/
def isSingleDot (segment : List Char) : Bool :=
  [".", "%2e"].any (fun s => s.toList == segment.map Char.toLower)

/-- Whether a segment stands for the place above. -/
def isDoubleDot (segment : List Char) : Bool :=
  ["..", ".%2e", "%2e.", "%2e%2e"].any (fun s => s.toList == segment.map Char.toLower)

/-- Whether a segment begins with a drive: a letter, then `:` or `|`, then a backslash or nothing.
    -/
def beginsWithDrive : List Char → Bool
  | letter :: mark :: rest =>
      letter.isAlpha && (mark == ':' || mark == '|') && (rest.isEmpty || rest.head? == some '\\')
  | _ => false

/-- The segments, last first, above the last of `done`. -/
def above : List (List Char) → List (List Char)
  | [] => []
  | last :: earlier => if beginsWithDrive last then last :: earlier else earlier

/-- The segments that remain.  `done` holds those before, last first; each of them is followed by
    a slash.  The last segment of the result is followed by none. -/
def resolveDots (done : List (List Char)) : List (List Char) → List (List Char)
  | [] => done.reverse
  | [last] =>
      if isDoubleDot last then (above done).reverse ++ [[]]
      else if isSingleDot last then done.reverse ++ [[]]
      else done.reverse ++ [last]
  | segment :: rest =>
      if isDoubleDot segment then resolveDots (above done) rest
      else if isSingleDot segment then resolveDots done rest
      else resolveDots (segment :: done) rest

/-- Whether a character separates segments. -/
def isSeparator (k : SchemeKind) (c : Char) : Bool :=
  c == '/' || (c == '\\' && k.isSpecial)

/-- The path for what stands behind its leading slash. -/
def pathBehindSlash (k : SchemeKind) (cs : List Char) : List Char :=
  '/' :: ['/'].intercalate (resolveDots [] (cs.splitOnP (isSeparator k)))

/-- The path behind an authority.  It begins with a slash, written or not, unless there is nothing
    at all and the scheme is not a web scheme. -/
def pathBehindAuthority (k : SchemeKind) (cs : List Char) : List Char :=
  match cs with
  | [] => if k.isSpecial then ['/'] else []
  | c :: rest => if isSeparator k c then pathBehindSlash k rest else pathBehindSlash k cs

end GraphLink.Uri
