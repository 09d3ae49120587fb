import GraphLink.Text.Numeral

/-! # IPv4 addresses in the hosts of web schemes

    A host whose last label is a number must be an IPv4 address: one to four numbers with points
    between them, each decimal, octal (behind `0`) or hexadecimal (behind `0x`).  The last number
    fills all bytes that the others leave open. -/

namespace GraphLink.Ipv4

/-- A number in one of the three bases; nothing behind `0x` is zero. -/
def readNumber (cs : List Char) : Option Nat :=
  match cs with
  | [] => none
  | ['0'] => some 0
  | '0' :: 'x' :: digits | '0' :: 'X' :: digits =>
      if digits.isEmpty then some 0 else Text.readNat 16 digits
  | '0' :: digits => Text.readNat 8 digits
  | digits => Text.readNat 10 digits

/-- The labels of a host, a point at the end disregarded. -/
def labels (host : List Char) : List (List Char) :=
  let parts := host.splitOn '.'
  if 2 ≤ parts.length ∧ parts.getLast? = some [] then parts.dropLast else parts

/-- Whether the last label is a number, or at least made of digits. -/
def endsInNumber (host : List Char) : Bool :=
  match (labels host).getLast? with
  | none => false
  | some last => (!last.isEmpty && last.all Char.isDigit) || (readNumber last).isSome

/-- The address that a host denotes, as one number of thirty-two bits. -/
def parse (host : List Char) : Option Nat := do
  let numbers ← (labels host).mapM readNumber
  let last ← numbers.getLast?
  let front := numbers.dropLast
  if front.length ≤ 3 ∧ front.all (· < 256) ∧ last < Nat.pow 256 (4 - front.length) then
    let high := front.foldl (fun acc n => acc * 256 + n) 0
    pure (high * Nat.pow 256 (4 - front.length) + last)
  else none

/-- The four bytes of an address, in decimal with points between them. -/
def render (address : Nat) : List Char :=
  ['.'].intercalate
    ([Nat.pow 256 3, Nat.pow 256 2, 256, 1].map
      (fun weight => Text.decimal (address / weight % 256)))

end GraphLink.Ipv4
