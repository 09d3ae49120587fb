import GraphLink.Text.Cut

/-! # Punycode

    A label outside ASCII travels as ASCII: first its ASCII characters, then, behind the last
    hyphen, numbers that say which other characters it holds and where they stand.  The characters
    come in ascending order, so each number counts how many steps of place and code point lie
    between one insertion and the next.

    A number is a run of digits to base 36, the least digit first; a digit below its threshold
    ends the number.  The thresholds follow the size of the numbers read so far.  Counts stay
    below 2³². -/

namespace GraphLink.Domain
namespace Punycode

/-- All counts stay below this. -/
def limit : Nat := Nat.pow 2 32

/-- The value of a digit: small letters are 0 to 25 and decimal digits 26 to 35. -/
def digit? (c : Char) : Option Nat :=
  if 'a' ≤ c ∧ c ≤ 'z' then some (c.toNat - 'a'.toNat)
  else if '0' ≤ c ∧ c ≤ '9' then some (c.toNat - '0'.toNat + 26)
  else none

/-- The threshold of the digit at a place of a number; places are counted in steps of 36. -/
def threshold (bias place : Nat) : Nat :=
  if place ≤ bias then 1 else if bias + 26 ≤ place then 26 else place - bias

/-- Reads one number from its digit at `place` on: what it adds to the total, and the rest. -/
def readNumber (bias place weight total : Nat) : List Char → Option (Nat × List Char)
  | [] => none
  | c :: rest =>
      match digit? c with
      | none => none
      | some digit =>
          let total := total + digit * weight
          let bound := threshold bias place
          if limit ≤ total then none
          else if digit < bound then some (total, rest)
          else if limit ≤ weight * (36 - bound) then none
          else readNumber bias (place + 36) (weight * (36 - bound)) total rest

/-- A number takes up at least one character. -/
theorem length_of_readNumber {bias : Nat} :
    ∀ {cs : List Char} {place weight total : Nat} {r : Nat × List Char},
      readNumber bias place weight total cs = some r → r.2.length < cs.length
  | [], _, _, _, _, h => by simp [readNumber] at h
  | c :: rest, place, weight, total, r, h => by
      simp only [readNumber] at h
      split at h
      · simp at h
      · split at h
        · simp at h
        · split at h
          · cases h; simp
          · split at h
            · simp at h
            · have := length_of_readNumber h
              simp only [List.length_cons]; omega

/-- The bias for a number of the size `delta`, scaled down until the digits can tell it. -/
def scale (delta bias : Nat) : Nat :=
  if 455 < delta then scale (delta / 35) (bias + 36) else bias + 36 * delta / (delta + 38)
termination_by delta
decreasing_by exact Nat.div_lt_self (by omega) (by omega)

/-- The bias for the number behind one of the size `delta`, when a text has `count` characters. -/
def adapt (delta count : Nat) (isFirst : Bool) : Nat :=
  let start := if isFirst then delta / 700 else delta / 2
  scale (start + start / count) 0

/-- Whether a number is the code point of a character. -/
def isCodePoint (n : Nat) : Bool := n < 0xD800 || (0xDFFF < n && n < 0x110000)

/-- Inserts into `text` the characters that the numbers in `cs` say; `point` is the code point
    reached so far and `place` the place behind the last insertion. -/
def insertAll (bias point place : Nat) (text cs : List Char) : Option (List Char) :=
  if cs.isEmpty then some text
  else
    match _ : readNumber bias 36 1 place cs with
    | none => none
    | some (total, rest) =>
        let count := text.length + 1
        let next := point + total / count
        if isCodePoint next then
          insertAll (adapt (total - place) count (place == 0)) next (total % count + 1)
            (text.insertIdx (total % count) (Char.ofNat next)) rest
        else none
termination_by cs.length
decreasing_by exact length_of_readNumber ‹_›

/-- The text that a label stands for, without what marks it as encoded. -/
def decode (cs : List Char) : Option (List Char) :=
  match Text.cutLast '-' cs with
  | none => insertAll 72 0x80 0 [] cs
  | some (plain, numbers) =>
      if plain.isEmpty || plain.any (fun c => 0x80 ≤ c.toNat) then none
      else insertAll 72 0x80 0 plain numbers

end Punycode
end GraphLink.Domain
