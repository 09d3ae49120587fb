import GraphLink.Connection.Scheme
import GraphLink.Error
import GraphLink.Options.Bag

/-! # Security and options

    Under a secure scheme the scheme settles two options, and setting either of them as well is a
    contradiction, whatever the value.  Otherwise the values that the scheme implies are put into
    the bag, so that the layers behind need not know of schemes at all.

    The bag is changed in place (`settle`); `applySecurity` is what comes of it for a caller that
    goes on with the bag only if it has been accepted. -/

namespace GraphLink.Options

/-- The option that turns encryption on. -/
def encryptedKey : String := "encrypted"

/-- The option that says which certificates are trusted. -/
def certificatesKey : String := "trusted_certificates"

/-- What a caller is told of a fault. -/
def Fault.toError : Fault → Error
  | .inadmissible key expected value =>
      .configuration ("Config option '" ++ key ++ "' expects " ++ expected ++ ", got "
        ++ value.text)
  | .unknown keys => .unknownOptions keys
  | .settledByScheme =>
      .configuration ("The config settings '" ++ encryptedKey ++ "' and '" ++ certificatesKey
        ++ "' can only be used with the URI schemes ["
        ++ Scheme.listText (fun s => !s.security.isSecure)
        ++ "]. Use the other URI schemes [" ++ Scheme.listText (fun s => s.security.isSecure)
        ++ "] for setting encryption settings.")

/-- Applies a security mode to a bag in place: what it says, and the bag as it is afterwards,
    whether or not the mode has refused it. -/
def settle (security : Security) (o : Options) : Except Fault Unit × Options :=
  if security.isSecure then
    if o.contains encryptedKey || o.contains certificatesKey then (.error .settledByScheme, o)
    else
      let o := (o.insertNew encryptedKey (.bool true)).2
      let o := if security = .selfSigned then (o.insertNew certificatesKey (.list [])).2 else o
      (.ok (), o)
  else (.ok (), o)

/-- The bag with what a security mode implies, if the mode does not refuse it. -/
def applySecurity (security : Security) (o : Options) : Except Fault Options :=
  let (verdict, settled) := settle security o
  verdict.map (fun _ => settled)

end GraphLink.Options
