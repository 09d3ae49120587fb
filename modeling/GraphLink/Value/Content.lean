import GraphLink.Value.Basic

/-! # Values by their content

    A format such as JSON has numbers, texts and so on, and does not say which shape of value they
    are.  So a value has the first shape that its content fits, in the order in which the shapes are
    declared: an integer that does not fit into 64 bits is a float. -/

namespace GraphLink

/-- What a format says of a value.  The parts of a list or a map are values already. -/
inductive Content where
  | unit
  | bool (b : Bool)
  | integer (i : Int)
  | float (x : Binary64)
  | string (s : String)
  | items (items : List Value)
  /-- Fields in any order; of two with one key the later counts. -/
  | fields (pairs : List (String × Value))

namespace Value

def fitNull : Content → Option Value
  | .unit => some .null
  | _ => none

def fitBool : Content → Option Value
  | .bool b => some (.bool b)
  | _ => none

def fitInt : Content → Option Value
  | .integer i =>
      if Int64.minValue.toInt ≤ i ∧ i ≤ Int64.maxValue.toInt then some (.int (Int64.ofInt i))
      else none
  | _ => none

/-- Integers fit a float as well. -/
def fitFloat : Content → Option Value
  | .float x => some (.float x)
  | .integer i => some (.float (Binary64.ofInt i))
  | _ => none

def fitString : Content → Option Value
  | .string s => some (.string s)
  | _ => none

def fitList : Content → Option Value
  | .items items => some (.list items)
  | _ => none

def fitMap : Content → Option Value
  | .fields pairs => some (ofPairs pairs)
  | _ => none

/-- The shapes of values in the order of their declaration. -/
def shapes : List (Content → Option Value) :=
  [fitNull, fitBool, fitInt, fitFloat, fitString, fitList, fitMap]

/-- A value of the first shape that fits. -/
def ofContent (content : Content) : Option Value :=
  shapes.findSome? (fun fit => fit content)

end Value
end GraphLink
