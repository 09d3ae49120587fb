import GraphLink.Value.Text

/-! # Options — a flat bag of settings

    Options are set by name, all in one bag, before anyone knows which layer of the configuration
    wants which.  What no layer has taken at the end is an error. -/

namespace GraphLink

/-- Settings by name. -/
abbrev Options := SortedMap Value

namespace Options

/-- Why options are refused. -/
inductive Fault where
  /-- The value of an option is not what the option expects. -/
  | inadmissible (key expected : String) (value : Value)
  /-- No layer knows these options. -/
  | unknown (keys : List String)
  /-- Options that a secure scheme settles were set as well. -/
  | settledByScheme
  deriving DecidableEq

/-- Puts a value in unless its key has one already, and says whether it did. -/
def insertNew (o : Options) (key : String) (value : Value) : Bool × Options :=
  if o.contains key then (false, o) else (true, o.insert key value)

/-- Refuses what is left in a bag. -/
def ensureConsumed (o : Options) : Except Fault Unit :=
  if o.isEmpty then .ok () else .error (.unknown o.keys)

end Options
end GraphLink
