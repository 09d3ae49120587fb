import GraphLink.Config.Workspace

/-! # Session configuration — the workspace layer with a session's own settings on top -/

namespace GraphLink

/-- What a session does with the data. -/
inductive AccessMode where
  | read
  | write
  deriving DecidableEq, Repr, Inhabited

namespace AccessMode

/-- The name of a mode. -/
def name : AccessMode → String
  | .read => "READ"
  | .write => "WRITE"

/-- The mode with a name, in any mix of ASCII letter cases. -/
def ofName? (s : String) : Option AccessMode :=
  [read, write].find? (fun mode => mode.name.toList == s.toList.map Char.toUpper)

/-- The name of a mode as diagnostics show it. -/
def describe : AccessMode → String
  | .read => "Read"
  | .write => "Write"

end AccessMode

/-- A point in the history of a database that a session wants to have seen. -/
structure Bookmark where
  value : String
  deriving DecidableEq, Repr, Inhabited

/-- How a session works. -/
structure SessionConfig where
  workspace : WorkspaceConfig := {}
  bookmarks : List Bookmark := []
  defaultAccessMode : AccessMode := .write
  deriving DecidableEq

namespace SessionConfig

/-- The database of a session. -/
def database (c : SessionConfig) : Option String :=
  c.workspace.database

/-- The field of the access mode: a string, and of the strings only the names of modes. -/
def accessModeField : Field SessionConfig where
  key := "default_access_mode"
  expected := fun v => if v.asString.isSome then "READ or WRITE" else "a string"
  read := fun v =>
    (v.asString.bind AccessMode.ofName?).map (fun mode c => { c with defaultAccessMode := mode })

/-- The session layer: the fields of the workspace layer, then its own. -/
def layer : Layer SessionConfig where
  defaults := {}
  fields :=
    WorkspaceConfig.layer.fields.map
        (·.within (fun set c => { c with workspace := set c.workspace }))
      ++ [.strings "bookmarks" (fun v c => { c with bookmarks := v.map Bookmark.mk }),
        accessModeField]

/-- The configuration of a session whose driver has the given workspace. -/
def consumeOver (defaults : WorkspaceConfig) (o : Options) : Except Options.Fault SessionConfig :=
  layer.consumeOver { workspace := defaults } o

end SessionConfig
end GraphLink
