import GraphLink.Binary64.Shortest
import GraphLink.Value.Basic

/-! # The text of a value

    Values are shown on one line: lists in square brackets, maps in braces, parts separated by a
    comma and a space.  A string stands between double quotes and is not escaped; the keys of a map
    stand bare.  Integers are in decimal, floats are their shortest decimal without an exponent. -/

namespace GraphLink.Value

/-- Parts between an opening and a closing mark. -/
def bracketed (opening closing : String) (parts : List String) : String :=
  opening ++ ", ".intercalate parts ++ closing

/-- The text of an integer. -/
def intText (i : Int64) : String :=
  if i.toInt < 0 then String.ofList ('-' :: Text.decimal i.toInt.natAbs)
  else String.ofList (Text.decimal i.toInt.natAbs)

mutual

/-- The text of a value. -/
def text : Value → String
  | .null => "null"
  | .bool true => "true"
  | .bool false => "false"
  | .int i => intText i
  | .float x => x.text
  | .string s => "\"" ++ s ++ "\""
  | .list items => bracketed "[" "]" (itemTexts items)
  | .map fields => bracketed "\x7b" "\x7d" (fieldTexts fields)

/-- The texts of items, in order. -/
def itemTexts : List Value → List String
  | [] => []
  | v :: rest => text v :: itemTexts rest

/-- The texts of fields, in order. -/
def fieldTexts : List (String × Value) → List String
  | [] => []
  | (k, v) :: rest => (k ++ ": " ++ text v) :: fieldTexts rest

end

end GraphLink.Value
