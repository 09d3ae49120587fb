import GraphLink.Text.Numeral

/-! # IPv6 addresses — eight groups of sixteen bits

    An address is written as eight hexadecimal groups with colons between them.  Two colons in a
    row may stand, once, for one group of zero or more, and the last two groups may be written
    as four decimal bytes with points between them.  `parse` reads all of these; `render` writes
    the shortest form: no leading zeros, and the longest run of two zero groups or more (the first
    such run) left out. -/

namespace GraphLink

/-- An IPv6 address. -/
structure Ipv6 where
  groups : List UInt16
  eight : groups.length = 8
  deriving DecidableEq

namespace Ipv6

/-- One to four hexadecimal digits. -/
def readGroup (cs : List Char) : Option UInt16 :=
  if cs.length ≤ 4 then (Text.readNat 16 cs).map UInt16.ofNat else none

/-- A decimal byte without a leading zero. -/
def readByte (cs : List Char) : Option Nat :=
  if cs.head? = some '0' ∧ cs ≠ ['0'] then none
  else (Text.readNat 10 cs).filter (· < 256)

/-- Four decimal bytes with points between them, as two groups. -/
def readDotted (cs : List Char) : Option (List UInt16) :=
  match (cs.splitOn '.').mapM readByte with
  | some [a, b, c, d] => some [UInt16.ofNat (256 * a + b), UInt16.ofNat (256 * c + d)]
  | _ => none

/-- Groups, of which the last may be four decimal bytes. -/
def readTail : List (List Char) → Option (List UInt16)
  | [] => some []
  | [last] => ((readGroup last).map ([·])).or (readDotted last)
  | first :: rest => do
      let g ← readGroup first
      let gs ← readTail rest
      pure (g :: gs)

/-- The parts before and after the first two colons in a row. -/
def cutDoubleColon : List Char → Option (List Char × List Char)
  | ':' :: ':' :: rest => some ([], rest)
  | c :: rest => (cutDoubleColon rest).map (fun p => (c :: p.1, p.2))
  | [] => none

/-- What stands between colons; an empty text has no parts. -/
def colonParts (cs : List Char) : List (List Char) :=
  if cs.isEmpty then [] else cs.splitOn ':'

/-- All eight groups of an address in writing, if it is one. -/
def readGroups (cs : List Char) : Option (List UInt16) :=
  match cutDoubleColon cs with
  | none => readTail (cs.splitOn ':')
  | some (before, after) => do
      let front ← (colonParts before).mapM readGroup
      let back ← readTail (colonParts after)
      if front.length + back.length < 8 then
        pure (front ++ List.replicate (8 - front.length - back.length) 0 ++ back)
      else none

/-- The address that a text denotes. -/
def parse (cs : List Char) : Option Ipv6 :=
  match readGroups cs with
  | some gs => if h : gs.length = 8 then some ⟨gs, h⟩ else none
  | none => none

/-- The number of zero groups at the front. -/
def zerosAtFront (gs : List UInt16) : Nat :=
  (gs.takeWhile (· == 0)).length

/-- Where the longest run of zero groups begins, and its length; the first one of that length. -/
def longestZeros (gs : List UInt16) : Nat × Nat :=
  (List.range gs.length).foldl
    (fun best i =>
      let run := zerosAtFront (gs.drop i)
      if best.2 < run then (i, run) else best)
    (0, 0)

/-- Groups in hexadecimal with colons between them. -/
def renderGroups (gs : List UInt16) : List Char :=
  [':'].intercalate (gs.map (fun g => Text.hexadecimal g.toNat))

/-- An address in its shortest form. -/
def render (a : Ipv6) : List Char :=
  let (start, length) := longestZeros a.groups
  if 2 ≤ length then
    renderGroups (a.groups.take start) ++ [':', ':']
      ++ renderGroups (a.groups.drop (start + length))
  else renderGroups a.groups

end Ipv6
end GraphLink
