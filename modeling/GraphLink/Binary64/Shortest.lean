import GraphLink.Binary64.Decimal

/-! # Shortest decimals — the fewest digits that read back

    A finite double is shown by the decimal that has the fewest digits among those that round to
    it, and among these by the one nearest to it.

    One unit is `5 ^ 1074 / 10 ^ 1074`, so in steps of `10 ^ -1074` the number itself, the points
    half-way to its two neighbours, and every point of a coarser decimal grid are integers.  The
    grid with one digit is tried first, then two, and so on; on a grid only the two points around
    the number can be hits.  Seventeen digits always suffice. -/

namespace GraphLink

namespace Binary64

/-- The exponent of the fine decimal grid on which doubles and their boundaries are integers. -/
def finePlaces : Nat := 1074

/-- A double with its rounding interval, doubled and in steps of `10 ^ -1074`. -/
structure Interval where
  /-- Twice the number. -/
  centre : Nat
  /-- Twice the lower boundary: the sum of the number and its lower neighbour. -/
  low : Nat
  /-- Twice the upper boundary. -/
  high : Nat
  /-- Whether a decimal on a boundary still rounds to the number. -/
  closed : Bool
  deriving Repr

/-- The rounding interval of the magnitude with bits `b`, for `0 < b`. -/
def Interval.ofBits (b : Nat) : Interval :=
  let fine := fun n => unitsOfBits n * Nat.pow 5 finePlaces
  { centre := 2 * fine b, low := fine (b - 1) + fine b, high := fine b + fine (b + 1),
    closed := b % 2 == 0 }

/-- Whether a decimal, doubled, rounds to the number. -/
def Interval.holds (i : Interval) (x : Nat) : Bool :=
  if i.closed then i.low ≤ x && x ≤ i.high else i.low < x && x < i.high

/-- The hit on the grid with spacing `step`, as a number of steps: of the two grid points around
    the number the one in the interval, the nearer if both are, the upper if both are as near. -/
def Interval.hit (i : Interval) (step : Nat) : Option Nat :=
  let below := i.centre / (2 * step)
  let above := below + 1
  match i.holds (2 * step * below), i.holds (2 * step * above) with
  | true, true =>
      if i.centre - 2 * step * below < 2 * step * above - i.centre then some below
      else some above
  | true, false => some below
  | false, true => some above
  | false, false => none

/-- The first hit with `digits` digits or more, at most `fuel` more; `size` is the number of
    digits that the number has on the fine grid. -/
def Interval.shortest (i : Interval) (size : Nat) : (fuel digits : Nat) → Decimal
  | 0, _ => ⟨i.centre / 2, -finePlaces⟩
  | fuel + 1, digits =>
      match i.hit (Nat.pow 10 (size - digits)) with
      | some n => ⟨n, (size - digits : Nat) - (finePlaces : Int)⟩
      | none => i.shortest size fuel (digits + 1)

/-- The shortest decimal of a finite magnitude. -/
def shortestDecimal (x : Binary64) : Decimal :=
  let b := x.magnitudeBits
  if b = 0 then ⟨0, 0⟩
  else
    let interval := Interval.ofBits b
    interval.shortest (Text.decimal (interval.centre / 2)).length 17 1

/-- The text of a number: sign, then the shortest decimal without an exponent. -/
def text (x : Binary64) : String :=
  if x.isNaN then "NaN"
  else
    let magnitude := if x.isInfinite then ['i', 'n', 'f'] else x.shortestDecimal.positional
    String.ofList (if x.isNegative then '-' :: magnitude else magnitude)

end Binary64
end GraphLink
