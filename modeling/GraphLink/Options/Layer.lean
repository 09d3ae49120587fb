import GraphLink.Options.Bag

/-! # Layers — which settings a configuration takes from the bag

    A layer is a list of fields in a fixed order.  A field has a key, a rule for admissible values,
    and a way to set them.  Taking a layer goes through its fields in order: the entry of the key
    is taken out of the bag whatever its value; an admissible value is set, an absent one leaves
    the configuration as it was, and the first inadmissible one ends the taking.  So a failure
    leaves in the bag exactly the entries behind the offending one. -/

namespace GraphLink

/-- A setting of a configuration of type `σ`. -/
structure Field (σ : Type) where
  key : String
  /-- What the field expects, as the message about a value says it. -/
  expected : Value → String
  /-- How an admissible value is set. -/
  read : Value → Option (σ → σ)

namespace Field

variable {σ τ α : Type}

/-- A field whose values are converted to `α` and then set. -/
def of (key expected : String) (convert : Value → Option α) (set : α → σ → σ) : Field σ :=
  { key, expected := fun _ => expected, read := fun v => (convert v).map set }

/-- Whether a value fits the field's rule. -/
def admits (f : Field σ) (v : Value) : Bool :=
  (f.read v).isSome

/-- A field of a part of a larger configuration. -/
def within (f : Field σ) (modify : (σ → σ) → τ → τ) : Field τ :=
  { key := f.key, expected := f.expected, read := fun v => (f.read v).map modify }

def bool (key : String) (set : Bool → σ → σ) : Field σ :=
  of key "a boolean" Value.asBool set

def int (key : String) (set : Int64 → σ → σ) : Field σ :=
  of key "an integer" Value.asInt set

/-- An integer that is not negative. -/
def size (key : String) (set : Nat → σ → σ) : Field σ :=
  of key "a non-negative integer"
    (fun v => (v.asInt.filter (fun i => 0 ≤ i.toInt)).map (fun i => i.toInt.toNat)) set

def float (key : String) (set : Binary64 → σ → σ) : Field σ :=
  of key "a number" Value.asFloat set

def duration (key : String) (set : Duration → σ → σ) : Field σ :=
  of key "a non-negative number of seconds" Value.asDuration set

def string (key : String) (set : String → σ → σ) : Field σ :=
  of key "a string" Value.asString set

/-- A string, or null for none. -/
def optionalString (key : String) (set : Option String → σ → σ) : Field σ :=
  of key "a string or null"
    (fun v => if v.isNull then some none else v.asString.map some) set

/-- The strings of a list of strings; a single string is a list of one. -/
def readStrings : Value → Option (List String)
  | .string s => some [s]
  | .list items => items.mapM Value.asString
  | _ => none

def strings (key : String) (set : List String → σ → σ) : Field σ :=
  of key "a list of strings" readStrings set

/-- Takes the entry of a field out of the bag and sets it on a configuration. -/
def take (f : Field σ) (config : σ) (o : Options) : Except Options.Fault σ × Options :=
  match o.get? f.key with
  | none => (.ok config, o)
  | some value =>
      match f.read value with
      | some set => (.ok (set config), o.erase f.key)
      | none => (.error (.inadmissible f.key (f.expected value) value), o.erase f.key)

/-- Takes fields in order, up to the first whose value is inadmissible. -/
def takeAll : List (Field σ) → σ → Options → Except Options.Fault σ × Options
  | [], config, o => (.ok config, o)
  | f :: rest, config, o =>
      match f.take config o with
      | (.ok config, o) => takeAll rest config o
      | (.error fault, o) => (.error fault, o)

end Field

/-- A part of the configuration: its fields in order, and what it is before any is set. -/
structure Layer (σ : Type) where
  fields : List (Field σ)
  defaults : σ

namespace Layer

variable {σ : Type}

/-- The keys of a layer, in order. -/
def keys (l : Layer σ) : List String :=
  l.fields.map Field.key

/-- Takes a layer out of the bag, on top of a base. -/
def takeOver (l : Layer σ) (base : σ) (o : Options) : Except Options.Fault σ × Options :=
  Field.takeAll l.fields base o

/-- Takes a layer out of the bag, on top of its defaults. -/
def take (l : Layer σ) (o : Options) : Except Options.Fault σ × Options :=
  l.takeOver l.defaults o

/-- Turns a whole bag into a layer on top of a base; nothing may be left. -/
def consumeOver (l : Layer σ) (base : σ) (o : Options) : Except Options.Fault σ :=
  match l.takeOver base o with
  | (.ok config, rest) => (Options.ensureConsumed rest).map (fun _ => config)
  | (.error fault, _) => .error fault

/-- Turns a whole bag into a layer; nothing may be left. -/
def consume (l : Layer σ) (o : Options) : Except Options.Fault σ :=
  l.consumeOver l.defaults o

end Layer
end GraphLink
