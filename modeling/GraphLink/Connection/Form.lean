import GraphLink.Text.Cut
import GraphLink.Text.Percent

/-! # Form-encoded pairs

    A query holds pairs with `&` between them; empty pieces are skipped.  A piece is a key and,
    behind its first `=`, a value.  In both a plus sign is a space and percent-encoded bytes are
    decoded; bytes that are not UTF-8 are replaced. -/

namespace GraphLink.Form

/-- The text that a key or value stands for. -/
def decodePart (cs : List Char) : String :=
  let spaced := cs.map (fun c => if c = '+' then ' ' else c)
  String.ofList (Text.readUtf8 (Text.Percent.decode (Text.utf8 spaced)))

/-- The key and the value of a piece; the value is empty if there is no `=`. -/
def decodePiece (cs : List Char) : String × String :=
  let (key, value) := (Text.cutFirst '=' cs).getD (cs, [])
  (decodePart key, decodePart value)

/-- The pieces of a query. -/
def pieces (query : List Char) : List (List Char) :=
  (query.splitOn '&').filter (fun piece => !piece.isEmpty)

/-- The pairs of a query, in order. -/
def pairs (query : List Char) : List (String × String) :=
  (pieces query).map decodePiece

end GraphLink.Form
