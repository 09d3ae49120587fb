import GraphLink.Address.Basic
import GraphLink.Value.Text

/-! # Records — rows of a result

    A record has keys and values, not necessarily as many of the one as of the other.  A value is
    found by the first position of its key (`get?`); a map of a record takes the pairs in order, so
    there the last position of a key wins (`toMap`). -/

namespace GraphLink

/-- A row of a result. -/
structure Record where
  keys : List String
  values : List Value
  deriving DecidableEq

namespace Record

/-- The number of values. -/
def size (r : Record) : Nat :=
  r.values.length

/-- The value at a position. -/
def at? (r : Record) (i : Nat) : Option Value :=
  r.values[i]?

/-- The value at the first position of a key. -/
def get? (r : Record) (key : String) : Option Value :=
  (r.keys.findIdx? (· == key)).bind r.at?

/-- The value of a key, converted; an error if there is none. -/
def getAs {α : Type} (convert : Value → Except Error α) (r : Record) (key : String) :
    Except Error α :=
  match r.get? key with
  | some v => convert v
  | none => .error (.typeConversion ("Key '" ++ key ++ "' not found"))

/-- Keys with their values, position by position. -/
def pairs (r : Record) : List (String × Value) :=
  r.keys.zip r.values

/-- The map of the pairs. -/
def toMap (r : Record) : SortedMap Value :=
  SortedMap.ofList r.pairs

/-- A record in writing. -/
def text (r : Record) : String :=
  Value.bracketed "\x7b" "\x7d" (r.pairs.map (fun p => p.1 ++ ": " ++ p.2.text))

end Record

/-- The server that answered. -/
structure ServerInfo where
  address : Address := ⟨Address.defaultHost, Address.defaultPort⟩
  /-- Its name and version. -/
  agent : String := ""
  protocol : String := ""
  deriving DecidableEq, Inhabited

/-- What a query answered. -/
structure QueryResult where
  keys : List String := []
  records : List Record := []
  server : ServerInfo := {}
  /-- The database that the query ran in. -/
  database : Option String := none
  deriving DecidableEq

namespace QueryResult

/-- The only record of a result; an error if there is none or more than one. -/
def single (r : QueryResult) : Except Error Record :=
  match r.records with
  | [record] => .ok record
  | [] =>
      .error (.notSingle
        "No records found. Make sure your query returns exactly one record.")
  | many =>
      .error (.notSingle ("Expected a result with a single record, but found "
        ++ String.ofList (Text.decimal many.length) ++ " records."))

end QueryResult
end GraphLink
