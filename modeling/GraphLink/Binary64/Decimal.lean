import GraphLink.Binary64.Basic
import GraphLink.Text.Numeral

/-! # Decimals — what floating-point numbers are written and read as

    A decimal is a number of steps of a power of ten.  It is written without an exponent
    (`positional`), and read as the double nearest to it (`Binary64.ofDecimal`). -/

namespace GraphLink

/-- A decimal `digits * 10 ^ exponent`. -/
structure Decimal where
  digits : Nat
  exponent : Int
  deriving DecidableEq, Repr

namespace Decimal

/-- The decimal written without an exponent: zeros are filled in up to the point, and there is a
    point only if digits other than zero stand behind it. -/
def positional (d : Decimal) : List Char :=
  let digits := Text.decimal d.digits
  match d.exponent with
  | .ofNat zeros => if d.digits = 0 then ['0'] else digits ++ List.replicate zeros '0'
  | .negSucc places =>
      let padded := List.replicate (places + 2 - digits.length) '0' ++ digits
      let split := padded.length - (places + 1)
      let fraction := ((padded.drop split).reverse.dropWhile (· == '0')).reverse
      padded.take split ++ (if fraction.isEmpty then [] else '.' :: fraction)

end Decimal

namespace Binary64

/-- The double nearest to a decimal, with a sign; infinite when there is none of that size.  A
    decimal of more than three hundred and ten places before its point is above every double, and
    one that begins more than three hundred and thirty places behind it is nearest to zero, so that
    no power of ten has to be computed for them. -/
def ofDecimal (negative : Bool) (d : Decimal) : Binary64 :=
  let places := d.exponent + (Text.decimal d.digits).length
  if d.digits = 0 ∨ places < -330 then ofMagnitudeBits negative 0
  else if 310 < places then ofMagnitudeBits negative infinityBits
  else
    match d.exponent with
    | .ofNat e => ofRatio negative (d.digits * Nat.pow 10 e) 1
    | .negSucc e => ofRatio negative d.digits (Nat.pow 10 (e + 1))

end Binary64
end GraphLink
