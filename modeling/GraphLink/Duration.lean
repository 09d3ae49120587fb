import GraphLink.Binary64.Basic
import GraphLink.Text.Numeral

/-! # Durations — whole nanoseconds below two to the sixty-four seconds

    A duration is a whole number of nanoseconds.  A floating-point number of seconds becomes the
    nearest one, ties to even, and nothing when it is negative, not finite, or too long
    (`ofSeconds`).  Read back as a number of seconds, the whole seconds and the fraction are rounded
    to doubles one after the other and added (`toSeconds`). -/

namespace GraphLink

/-- The nanoseconds of a second. -/
def nanosPerSecond : Nat := 1000000000

/-- A length of time. -/
structure Duration where
  /-- All of it, in nanoseconds. -/
  totalNanos : Nat
  /-- It is shorter than two to the sixty-four seconds. -/
  inRange : totalNanos < Nat.pow 2 64 * nanosPerSecond
  deriving DecidableEq

namespace Duration

/-- A whole number of seconds. -/
def seconds (n : UInt64) : Duration where
  totalNanos := n.toNat * nanosPerSecond
  inRange := Nat.mul_lt_mul_of_pos_right n.toNat_lt (by decide)

instance : Inhabited Duration := ⟨seconds 0⟩

/-- A number of nanoseconds, if it is in range. -/
def ofNanos? (n : Nat) : Option Duration :=
  if h : n < Nat.pow 2 64 * nanosPerSecond then some ⟨n, h⟩ else none

/-- The whole seconds. -/
def wholeSeconds (d : Duration) : Nat :=
  d.totalNanos / nanosPerSecond

/-- The nanoseconds beyond the whole seconds. -/
def subsecNanos (d : Duration) : Nat :=
  d.totalNanos % nanosPerSecond

/-- What is beyond the whole seconds is less than a second. -/
theorem subsecNanos_lt (d : Duration) : d.subsecNanos < nanosPerSecond :=
  Nat.mod_lt _ (by decide)

/-- The duration nearest to a number of seconds. -/
def ofSeconds (x : Binary64) : Option Duration :=
  if x.isFinite && (!x.isNegative || x.units == 0) && x.units < Nat.pow 2 64 * Binary64.one then
    ofNanos? (roundHalfEven (x.units * nanosPerSecond) Binary64.one)
  else none

/-- The number of seconds: whole seconds and fraction, each as the nearest double, then the double
    nearest to their sum. -/
def toSeconds (d : Duration) : Binary64 :=
  let whole := Binary64.ofRatio false d.wholeSeconds 1
  let fraction := Binary64.ofRatio false d.subsecNanos nanosPerSecond
  Binary64.ofRatio false (whole.units + fraction.units) Binary64.one

/-- A number of thousandths, millionths and so on with the zeros at the end left out: `part` out
    of `10 ^ places`, as what stands behind a whole number. -/
def fractionText (part places : Nat) : List Char :=
  let digits := Text.decimal part
  let padded := List.replicate (places - digits.length) '0' ++ digits
  let kept := (padded.reverse.dropWhile (· == '0')).reverse
  if kept.isEmpty then [] else '.' :: kept

/-- The duration in the largest unit of which there is a whole one. -/
def text (d : Duration) : String :=
  let n := d.totalNanos
  let show10 := fun places =>
    Text.decimal (n / Nat.pow 10 places) ++ fractionText (n % Nat.pow 10 places) places
  if Nat.pow 10 9 ≤ n then String.ofList (show10 9) ++ "s"
  else if Nat.pow 10 6 ≤ n then String.ofList (show10 6) ++ "ms"
  else if Nat.pow 10 3 ≤ n then String.ofList (show10 3) ++ "µs"
  else String.ofList (show10 0) ++ "ns"

/-- Behind the whole number stand a point and digits. -/
theorem forall_mem_fractionText {p : Char → Prop} (hpoint : p '.')
    (hdigit : ∀ d < 10, p d.digitChar) (part places : Nat) :
    ∀ c ∈ fractionText part places, p c := by
  have hpadded : ∀ c ∈ List.replicate (places - (Text.decimal part).length) '0'
      ++ Text.decimal part, p c := by
    intro c hc
    rcases List.mem_append.mp hc with hzero | hpart
    · rw [(List.mem_replicate.mp hzero).2]
      exact hdigit 0 (by decide)
    · exact Text.forall_mem_decimal hdigit part c hpart
  intro c hc
  simp only [fractionText] at hc
  split at hc
  · cases hc
  · rcases List.mem_cons.mp hc with rfl | hkept
    · exact hpoint
    · have hdropped := (List.dropWhile_sublist _).subset (List.mem_reverse.mp hkept)
      exact hpadded c (List.mem_reverse.mp hdropped)

/-- There is no space in a duration in writing. -/
theorem space_notMem_text (d : Duration) : ' ' ∉ d.text.toList := by
  have hshown : ∀ (n places : Nat) (unit : String), ' ' ∉ unit.toList →
      ' ' ∉ (String.ofList (Text.decimal (n / Nat.pow 10 places)
        ++ fractionText (n % Nat.pow 10 places) places) ++ unit).toList := by
    intro n places unit hunit hmem
    rw [String.toList_append, String.toList_ofList, List.mem_append, List.mem_append] at hmem
    rcases hmem with (hwhole | hfraction) | hmem
    · exact Text.forall_mem_decimal (p := (· ≠ ' ')) (by decide) _ _ hwhole rfl
    · exact forall_mem_fractionText (p := (· ≠ ' ')) (by decide) (by decide) _ _ _ hfraction rfl
    · exact hunit hmem
  simp only [text]
  split
  · exact hshown _ 9 "s" (by decide)
  · split
    · exact hshown _ 6 "ms" (by decide)
    · split
      · exact hshown _ 3 "µs" (by decide)
      · exact hshown _ 0 "ns" (by decide)

end Duration
end GraphLink
