import GraphLink.Address.Basic
import GraphLink.Text.Blank
import GraphLink.Text.Cut

/-! # Targets — texts that name addresses

    A **target** is `host`, `host:port` or `[host]:port`, with blanks around it.  A missing host or
    port is filled in from defaults, and so is port zero.  Reading has three stages, each a function
    of its own: the text is split into host and port text (`split`), the port text is read
    (`readPort`), and the defaults are applied (`resolve`).

    A list of targets is one sequence of words, wherever the boundaries between the targets lie
    (`parseList`).  An empty target or an empty list of targets stands for a standard one. -/

namespace GraphLink.Address

/-- Why a target is not an address.  Each fault carries the trimmed target. -/
inductive Fault where
  /-- An opening bracket without a closing one. -/
  | unterminated (target : String)
  /-- A port text that is not a port. -/
  | badPort (port target : String)
  /-- No host in the target and none by default. -/
  | noHost (target : String)
  deriving DecidableEq, Repr

namespace Fault

def message : Fault → String
  | .unterminated t => "Unterminated IPv6 address in " ++ Text.quoted t
  | .badPort p t => "Invalid port " ++ Text.quoted p ++ " in address " ++ Text.quoted t
  | .noHost t => "No host in " ++ Text.quoted t ++ " and no default host"

def toError (f : Fault) : Error :=
  .malformedAddress f.message

end Fault

/-- What a target leaves open is filled in from here. -/
structure Defaults where
  host : String := defaultHost
  port : UInt16 := defaultPort
  deriving DecidableEq, Repr

/-- Drops one colon from the front. -/
def dropColon : List Char → List Char
  | ':' :: rest => rest
  | cs => cs

/-- The host text and the port text of a trimmed target.  Behind an opening bracket the host
    reaches to the last closing one, and there must be one; otherwise it reaches to the first
    colon, if any. -/
def split : List Char → Option (List Char × List Char)
  | '[' :: rest => (Text.cutLast ']' rest).map (fun p => (p.1, dropColon p.2))
  | target => some ((Text.cutFirst ':' target).getD (target, []))

/-- The port that digits denote, if the number fits sixteen bits. -/
def portOfDigits (digits : List Char) : Option UInt16 :=
  ((Text.readNat 10 digits).filter (· < 65536)).map UInt16.ofNat

/-- The port that a port text denotes.  No text is port zero; otherwise there is one digit or more
    behind an optional plus sign, and the number fits sixteen bits. -/
def readPort : List Char → Option UInt16
  | [] => some 0
  | '+' :: digits => portOfDigits digits
  | digits => portOfDigits digits

/-- The address for a host text and a port, with the defaults for what is empty or zero. -/
def resolve (defaults : Defaults) (host : List Char) (port : UInt16) : Option Address :=
  let host := if host.isEmpty then defaults.host else String.ofList host
  if host.isEmpty then none
  else some ⟨host, if port = 0 then defaults.port else port⟩

/-- The address that a trimmed target names. -/
def ofTrimmed (defaults : Defaults) (target : List Char) : Except Fault Address :=
  match split target with
  | none => .error (.unterminated (String.ofList target))
  | some (host, port) =>
      match readPort port with
      | none => .error (.badPort (String.ofList port) (String.ofList target))
      | some port =>
          match resolve defaults host port with
          | none => .error (.noHost (String.ofList target))
          | some address => .ok address

/-- The address that a target names. -/
def parse (target : String) (defaults : Defaults := {}) : Except Fault Address :=
  ofTrimmed defaults (Text.trim target.toList)

/-- The words of a list of targets, none of them reaching across two targets. -/
def targetWords (targets : List String) : List (List Char) :=
  Text.words ([' '].intercalate (targets.map String.toList))

/-- The addresses that the words of the targets name, in order; the first fault if there is one. -/
def parseList (targets : List String) (defaults : Defaults := {}) : Except Fault (List Address) :=
  (targetWords targets).mapM (fun w => parse (String.ofList w) defaults)

/-- The target of a direct driver that is given a blank one. -/
def standardTarget : String := ":"

/-- The targets of a routing driver that is given none. -/
def standardTargets : String := ": :17601 :17687"

/-- The address of a direct driver. -/
def parseTarget (target : String) : Except Fault Address :=
  parse (if (Text.trim target.toList).isEmpty then standardTarget else target)

/-- The initial routers of a routing driver. -/
def parseTargets (targets : List String) : Except Fault (List Address) := do
  let addresses ← parseList targets
  if addresses.isEmpty then parseList [standardTargets] else pure addresses

end GraphLink.Address
