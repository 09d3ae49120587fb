import GraphLink.Binary64.Decimal
import GraphLink.Options.Bag
import GraphLink.Value.Content

/-! # Reading JSON

    The reader is strict: it takes JSON and nothing else, with blanks between tokens, and nothing
    but blanks behind the value.  A number without fraction and exponent is an integer if it fits
    into 64 bits, with or without a sign, and a float otherwise, minus zero being a float; a number
    too large for a float is refused, and so is half of a surrogate pair.  Lists and maps may be
    nested `maxDepth` deep.

    What is read is the content of a value, and its shape is chosen by what it fits. -/

namespace GraphLink.Json

/-- How deep lists and maps may be nested. -/
def maxDepth : Nat := 127

/-- The blanks of JSON. -/
def isSpace (c : Char) : Bool :=
  c == ' ' || c == '\n' || c == '\t' || c == '\r'

def skipSpace (cs : List Char) : List Char :=
  cs.dropWhile isSpace

-- ── Strings ────────────────────────────────────────────────────────

/-- The inside of a string as it is written, up to its closing quote, and what follows. -/
def cutString : List Char → Option (List Char × List Char)
  | [] => none
  | '"' :: rest => some ([], rest)
  | '\\' :: c :: rest => (cutString rest).map (fun p => ('\\' :: c :: p.1, p.2))
  | c :: rest => (cutString rest).map (fun p => (c :: p.1, p.2))

/-- The number that four hexadecimal digits denote. -/
def readHex4 (a b c d : Char) : Option Nat :=
  Text.readNat 16 [a, b, c, d]

/-- The character that stands behind a backslash for one other than itself, or for itself. -/
def simpleEscape : Char → Option Char
  | '"' => some '"'
  | '\\' => some '\\'
  | '/' => some '/'
  | 'b' => some '\x08'
  | 'f' => some '\x0c'
  | 'n' => some '\n'
  | 'r' => some '\r'
  | 't' => some '\t'
  | _ => none

/-- The first half of a surrogate pair. -/
def isHighSurrogate (n : Nat) : Bool := 0xD800 ≤ n && n ≤ 0xDBFF

/-- The second half of a surrogate pair. -/
def isLowSurrogate (n : Nat) : Bool := 0xDC00 ≤ n && n ≤ 0xDFFF

/-- The text that the inside of a string stands for. -/
def unescape : List Char → Option (List Char)
  | [] => some []
  | '\\' :: 'u' :: a :: b :: c :: d :: rest =>
      match readHex4 a b c d with
      | none => none
      | some high =>
          if isHighSurrogate high then
            match rest with
            | '\\' :: 'u' :: e :: f :: g :: h :: rest =>
                match readHex4 e f g h with
                | none => none
                | some low =>
                    if isLowSurrogate low then
                      let n := 0x10000 + (high - 0xD800) * 0x400 + (low - 0xDC00)
                      (unescape rest).map (Char.ofNat n :: ·)
                    else none
            | _ => none
          else if isLowSurrogate high then none
          else (unescape rest).map (Char.ofNat high :: ·)
  | '\\' :: c :: rest =>
      match simpleEscape c with
      | none => none
      | some c => (unescape rest).map (c :: ·)
  | c :: rest =>
      if c = '\\' ∨ c.toNat < 0x20 then none else (unescape rest).map (c :: ·)

/-- Reads a string behind its opening quote. -/
def readString (cs : List Char) : Option (String × List Char) := do
  let (inside, rest) ← cutString cs
  let text ← unescape inside
  pure (String.ofList text, rest)

-- ── Numbers ────────────────────────────────────────────────────────

/-- A run of digits, none or more, and what follows. -/
def cutDigits (cs : List Char) : List Char × List Char :=
  (cs.takeWhile Char.isDigit, cs.dropWhile Char.isDigit)

/-- The digits of a fraction, none if there is no point, and what follows. -/
def readFraction : List Char → Option (List Char × List Char)
  | '.' :: rest =>
      let (digits, rest) := cutDigits rest
      if digits.isEmpty then none else some (digits, rest)
  | cs => some ([], cs)

/-- An exponent, `none` inside if there is none, and what follows. -/
def readExponent (cs : List Char) : Option (Option Int × List Char) :=
  match cs with
  | 'e' :: rest | 'E' :: rest =>
      let (negative, rest) :=
        match rest with
        | '-' :: rest => (true, rest)
        | '+' :: rest => (false, rest)
        | rest => (false, rest)
      let (digits, rest) := cutDigits rest
      match Text.readNat 10 digits with
      | none => none
      | some n => some (some (if negative then -(n : Int) else n), rest)
  | cs => some (none, cs)

/-- A number without fraction and exponent: an integer if it fits, else the nearest float if there
    is one. -/
def ofInteger (negative : Bool) (n : Nat) : Option Content :=
  let i : Int := if negative then -(n : Int) else n
  if (negative && n == 0) || i < Int64.minValue.toInt || UInt64.size ≤ i then
    let x := Binary64.ofRatio negative n 1
    if x.isFinite then some (.float x) else none
  else some (.integer i)

/-- A number with a fraction or an exponent, if it is not too large. -/
def ofDecimal (negative : Bool) (d : Decimal) : Option Content :=
  let x := Binary64.ofDecimal negative d
  if x.isFinite then some (.float x) else none

/-- Reads a number behind its sign. -/
def readUnsigned (negative : Bool) (cs : List Char) : Option (Content × List Char) := do
  let (whole, rest) := cutDigits cs
  if whole.head? = some '0' ∧ whole.length ≠ 1 then none
  else
    let n ← Text.readNat 10 whole
    let (fraction, rest) ← readFraction rest
    let (exponent?, rest) ← readExponent rest
    if fraction.isEmpty ∧ exponent?.isNone then
      let content ← ofInteger negative n
      pure (content, rest)
    else
      let digits ← Text.readNat 10 (whole ++ fraction)
      let content ← ofDecimal negative ⟨digits, exponent?.getD 0 - fraction.length⟩
      pure (content, rest)

/-- Reads a number. -/
def readNumber : List Char → Option (Content × List Char)
  | '-' :: rest => readUnsigned true rest
  | cs => readUnsigned false cs

-- ── Values ─────────────────────────────────────────────────────────

/-- The value that has been read, by its content, and what follows. -/
def fit (content : Content) (rest : List Char) : Option (Value × List Char) :=
  (Value.ofContent content).map (fun v => (v, rest))

mutual

/-- Reads a value with at most `depth` levels of nesting.  Each call uses up one unit of `fuel`.
    Of two calls, one within the other, the inner or the outer reads a character, so twice the
    length of the text is fuel enough. -/
def readValue : (fuel depth : Nat) → List Char → Option (Value × List Char)
  | 0, _, _ => none
  | fuel + 1, depth, cs =>
      match skipSpace cs with
      | 'n' :: 'u' :: 'l' :: 'l' :: rest => fit .unit rest
      | 't' :: 'r' :: 'u' :: 'e' :: rest => fit (.bool true) rest
      | 'f' :: 'a' :: 'l' :: 's' :: 'e' :: rest => fit (.bool false) rest
      | '"' :: rest => (readString rest).bind (fun p => fit (.string p.1) p.2)
      | '[' :: rest =>
          match depth with
          | 0 => none
          | depth + 1 =>
              match skipSpace rest with
              | ']' :: rest => fit (.items []) rest
              | rest => (readItems fuel depth rest).bind (fun p => fit (.items p.1) p.2)
      | '\x7b' :: rest =>
          match depth with
          | 0 => none
          | depth + 1 =>
              match skipSpace rest with
              | '\x7d' :: rest => fit (.fields []) rest
              | rest => (readFields fuel depth rest).bind (fun p => fit (.fields p.1) p.2)
      | cs => (readNumber cs).bind (fun p => fit p.1 p.2)

/-- Reads the items of a list, one at least, and its closing bracket. -/
def readItems : (fuel depth : Nat) → List Char → Option (List Value × List Char)
  | 0, _, _ => none
  | fuel + 1, depth, cs =>
      match readValue fuel depth cs with
      | none => none
      | some (v, rest) =>
          match skipSpace rest with
          | ']' :: rest => some ([v], rest)
          | ',' :: rest => (readItems fuel depth rest).map (fun p => (v :: p.1, p.2))
          | _ => none

/-- Reads the fields of a map, one at least, and its closing brace. -/
def readFields : (fuel depth : Nat) → List Char → Option (List (String × Value) × List Char)
  | 0, _, _ => none
  | fuel + 1, depth, cs =>
      match skipSpace cs with
      | '"' :: rest =>
          match readString rest with
          | none => none
          | some (key, rest) =>
              match skipSpace rest with
              | ':' :: rest =>
                  match readValue fuel depth rest with
                  | none => none
                  | some (v, rest) =>
                      match skipSpace rest with
                      | '\x7d' :: rest => some ([(key, v)], rest)
                      | ',' :: rest =>
                          (readFields fuel depth rest).map (fun p => ((key, v) :: p.1, p.2))
                      | _ => none
              | _ => none
      | _ => none

end

/-- The value of a JSON text. -/
def read (text : String) : Option Value :=
  let cs := text.toList
  match readValue (2 * cs.length + 1) maxDepth cs with
  | some (v, rest) => if (skipSpace rest).isEmpty then some v else none
  | none => none

end GraphLink.Json

namespace GraphLink.Options

/-- The bag that a JSON text holds: its value must be a map. -/
def ofJson? (text : String) : Option Options :=
  match Json.read text with
  | some (.map fields) => some (SortedMap.ofList fields)
  | _ => none

end GraphLink.Options
