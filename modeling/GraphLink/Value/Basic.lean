import GraphLink.Duration
import GraphLink.Error
import GraphLink.SortedMap

/-! # Values — what queries answer with and options are set to

    A `Value` has one of seven shapes.  Nothing is converted silently: a reader such as `asInt`
    answers only for its own shape, except that an integer may also be read as a float and that a
    duration is written as a number of seconds.

    Two comparisons exist.  `equal` compares floats as numbers, so a NaN differs from itself and
    the two zeros are equal; the decidable equality of the type compares their bits. -/

namespace GraphLink

/-- A dynamically typed value. -/
inductive Value where
  | null
  | bool (b : Bool)
  | int (i : Int64)
  | float (x : Binary64)
  | string (s : String)
  | list (items : List Value)
  /-- Fields in strictly ascending order of their keys. -/
  | map (fields : List (String × Value))
  deriving Inhabited

namespace Value

/-- The name of a value's shape. -/
def typeName : Value → String
  | .null => "Null"
  | .bool _ => "Boolean"
  | .int _ => "Integer"
  | .float _ => "Float"
  | .string _ => "String"
  | .list _ => "List"
  | .map _ => "Map"

mutual

/-- Compares two values, with `same` for the floats in them. -/
def compareBy (same : Binary64 → Binary64 → Bool) : Value → Value → Bool
  | .null, .null => true
  | .bool a, .bool b => a == b
  | .int a, .int b => a == b
  | .float a, .float b => same a b
  | .string a, .string b => a == b
  | .list as, .list bs => compareItems same as bs
  | .map as, .map bs => compareFields same as bs
  | _, _ => false

/-- Compares item by item. -/
def compareItems (same : Binary64 → Binary64 → Bool) : List Value → List Value → Bool
  | [], [] => true
  | a :: as, b :: bs => compareBy same a b && compareItems same as bs
  | _, _ => false

/-- Compares field by field, keys included. -/
def compareFields (same : Binary64 → Binary64 → Bool) :
    List (String × Value) → List (String × Value) → Bool
  | [], [] => true
  | (k, a) :: as, (l, b) :: bs => k == l && compareBy same a b && compareFields same as bs
  | _, _ => false

end

/-- Equality with floats compared as numbers. -/
def equal (a b : Value) : Bool :=
  compareBy Binary64.equal a b

mutual

/-- Comparing floating-point numbers by `==`, a comparison of values tells whether they are
    equal. -/
theorem compareBy_beq_iff : ∀ a b : Value, compareBy (· == ·) a b = true ↔ a = b
  | .null, b => by cases b <;> simp [compareBy]
  | .bool _, b => by cases b <;> simp [compareBy]
  | .int _, b => by cases b <;> simp [compareBy]
  | .float _, b => by cases b <;> simp [compareBy]
  | .string _, b => by cases b <;> simp [compareBy]
  | .list as, b => by
      cases b with
      | list bs => simp [compareBy, compareItems_beq_iff as bs]
      | _ => simp [compareBy]
  | .map as, b => by
      cases b with
      | map bs => simp [compareBy, compareFields_beq_iff as bs]
      | _ => simp [compareBy]

/-- So does a comparison of lists, item by item. -/
theorem compareItems_beq_iff : ∀ as bs : List Value, compareItems (· == ·) as bs = true ↔ as = bs
  | [], bs => by cases bs <;> simp [compareItems]
  | a :: as, bs => by
      cases bs with
      | nil => simp [compareItems]
      | cons b bs => simp [compareItems, compareBy_beq_iff a b, compareItems_beq_iff as bs]

/-- So does a comparison of maps, field by field. -/
theorem compareFields_beq_iff :
    ∀ as bs : List (String × Value), compareFields (· == ·) as bs = true ↔ as = bs
  | [], bs => by cases bs <;> simp [compareFields]
  | (k, a) :: as, bs => by
      cases bs with
      | nil => simp [compareFields]
      | cons b bs =>
          obtain ⟨l, b⟩ := b
          simp [compareFields, compareBy_beq_iff a b, compareFields_beq_iff as bs, and_assoc]

end

instance : DecidableEq Value := fun a b =>
  decidable_of_iff _ (compareBy_beq_iff a b)

def isNull : Value → Bool
  | .null => true
  | _ => false

def asBool : Value → Option Bool
  | .bool b => some b
  | _ => none

def asInt : Value → Option Int64
  | .int i => some i
  | _ => none

/-- A float, or an integer as the double nearest to it. -/
def asFloat : Value → Option Binary64
  | .float x => some x
  | .int i => some (Binary64.ofInt i.toInt)
  | _ => none

def asString : Value → Option String
  | .string s => some s
  | _ => none

def asList : Value → Option (List Value)
  | .list items => some items
  | _ => none

def asMap : Value → Option (List (String × Value))
  | .map fields => some fields
  | _ => none

/-- A number of seconds as a duration; nothing if it is negative, not finite or too long. -/
def asDuration : Value → Option Duration
  | .int i => if 0 ≤ i.toInt then Duration.ofNanos? (i.toInt.toNat * nanosPerSecond) else none
  | .float x => Duration.ofSeconds x
  | _ => none

/-- Every number of whole seconds that is not negative is a duration. -/
theorem isSome_asDuration_int {i : Int64} (h : 0 ≤ i.toInt) :
    (asDuration (.int i)).isSome = true := by
  have hrange : i.toInt.toNat * nanosPerSecond < Nat.pow 2 64 * nanosPerSecond := by
    refine Nat.mul_lt_mul_of_pos_right ?_ (by decide)
    have hlt : i.toInt < 2 ^ 63 := i.toInt_lt
    show i.toInt.toNat < 18446744073709551616
    omega
  rw [asDuration, if_pos h, Duration.ofNanos?, dif_pos hrange]
  rfl

/-- The error for a value that is not of the type asked for. -/
def mismatch (v : Value) (wanted : String) : Error :=
  .typeConversion ("Cannot convert " ++ v.typeName ++ " to " ++ wanted)

def toBool (v : Value) : Except Error Bool :=
  (v.asBool.map Except.ok).getD (.error (v.mismatch "bool"))

def toInt (v : Value) : Except Error Int64 :=
  (v.asInt.map Except.ok).getD (.error (v.mismatch "i64"))

def toFloat (v : Value) : Except Error Binary64 :=
  (v.asFloat.map Except.ok).getD (.error (v.mismatch "f64"))

def toText (v : Value) : Except Error String :=
  (v.asString.map Except.ok).getD (.error (v.mismatch "String"))

/-- The greatest integer that a value can hold. -/
def maxInt : Int64 := 9223372036854775807

/-- A size as an integer; the greatest one if it does not fit. -/
def ofNat (n : Nat) : Value :=
  .int (if n ≤ maxInt.toInt.toNat then Int64.ofNat n else maxInt)

/-- A duration as its number of seconds. -/
def ofDuration (d : Duration) : Value :=
  .float d.toSeconds

def ofStrings (texts : List String) : Value :=
  .list (texts.map .string)

/-- A value that may be missing; a missing one is null. -/
def ofOption {β : Type} (make : β → Value) (v? : Option β) : Value :=
  (v?.map make).getD .null

/-- The map value of a list of pairs, in which the last pair of a key wins. -/
def ofPairs (pairs : List (String × Value)) : Value :=
  .map (SortedMap.ofList pairs).entries

end Value
end GraphLink
