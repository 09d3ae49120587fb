import GraphLink.Options.Bag

/-! # Values as JSON

    A value is written on one line without blanks.  Control characters, double quotes and
    backslashes in strings are escaped and all other characters stand for themselves.  JSON has no
    NaN and no infinities: they are written as null.  A finite float is written with a point, so
    that it is not mistaken for an integer. -/

namespace GraphLink.Json

/-- How one character stands inside a JSON string. -/
def escapeChar (c : Char) : List Char :=
  match c with
  | '"' => ['\\', '"']
  | '\\' => ['\\', '\\']
  | '\n' => ['\\', 'n']
  | '\r' => ['\\', 'r']
  | '\t' => ['\\', 't']
  | '\x08' => ['\\', 'b']
  | '\x0c' => ['\\', 'f']
  | c =>
      if c.toNat < 0x20 then
        ['\\', 'u', '0', '0', Nat.digitChar (c.toNat / 16), Nat.digitChar (c.toNat % 16)]
      else [c]

/-- A string in JSON. -/
def writeString (s : String) : List Char :=
  '"' :: s.toList.flatMap escapeChar ++ ['"']

/-- A float in JSON. -/
def writeFloat (x : Binary64) : List Char :=
  if x.isFinite then
    let text := x.text.toList
    if text.contains '.' then text else text ++ ['.', '0']
  else "null".toList

mutual

/-- A value in JSON. -/
def write : Value → List Char
  | .null => "null".toList
  | .bool true => "true".toList
  | .bool false => "false".toList
  | .int i => (Value.intText i).toList
  | .float x => writeFloat x
  | .string s => writeString s
  | .list items => '[' :: writeItems items
  | .map fields => '\x7b' :: writeFields fields

/-- What follows the opening bracket of a list. -/
def writeItems : List Value → List Char
  | [] => [']']
  | v :: rest => write v ++ writeMoreItems rest

/-- What follows an item of a list. -/
def writeMoreItems : List Value → List Char
  | [] => [']']
  | v :: rest => ',' :: write v ++ writeMoreItems rest

/-- What follows the opening brace of a map. -/
def writeFields : List (String × Value) → List Char
  | [] => ['\x7d']
  | (k, v) :: rest => writeString k ++ ':' :: write v ++ writeMoreFields rest

/-- What follows a field of a map. -/
def writeMoreFields : List (String × Value) → List Char
  | [] => ['\x7d']
  | (k, v) :: rest => ',' :: writeString k ++ ':' :: write v ++ writeMoreFields rest

end

mutual

/-- A value as JSON can hold it: NaN and the infinities become null. -/
def portable : Value → Value
  | .float x => if x.isFinite then .float x else .null
  | .list items => .list (portableItems items)
  | .map fields => .map (portableFields fields)
  | v => v

/-- The items of a list as JSON can hold them. -/
def portableItems : List Value → List Value
  | [] => []
  | v :: rest => portable v :: portableItems rest

/-- The fields of a map as JSON can hold them. -/
def portableFields : List (String × Value) → List (String × Value)
  | [] => []
  | (k, v) :: rest => (k, portable v) :: portableFields rest

end

end GraphLink.Json

namespace GraphLink.Options

/-- A bag in JSON. -/
def toJson (o : Options) : String :=
  String.ofList (Json.write (.map o.entries))

end GraphLink.Options
