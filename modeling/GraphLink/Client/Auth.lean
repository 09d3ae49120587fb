import GraphLink.SortedMap

/-! # Authentication tokens — what a client shows a server -/

namespace GraphLink

/-- What a client proves itself with. -/
inductive AuthToken where
  | none
  | basic (username password : String) (realm : Option String)
  | bearer (token : String)
  | kerberos (ticket : String)
  /-- A scheme of the server's own, with parameters. -/
  | custom (principal credentials realm scheme : String)
      (parameters : Option (SortedMap String))
  deriving DecidableEq, Inhabited

/-- The name of the scheme. -/
def AuthToken.scheme : AuthToken → String
  | .none => "none"
  | .basic .. => "basic"
  | .bearer _ => "bearer"
  | .kerberos _ => "kerberos"
  | .custom _ _ _ scheme _ => scheme

end GraphLink
