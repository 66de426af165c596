/-! # Configuration

The language servers the gateway may run, in order of priority, and what it
exposes of them.
-/

namespace LspGateway

/-- A language server that can be run and routed to. -/
structure ServerConfig where
  id : String
  /-- The languages it handles. -/
  languages : List String
  /-- The file extensions it handles, without a leading dot. -/
  extensions : List String
  /-- The command that runs it. -/
  command : String
  args : List String
  deriving DecidableEq, Repr, Inhabited

/-- The configuration of a gateway. -/
structure Config where
  /-- The servers; the first one is the default. -/
  servers : List ServerConfig
  /-- The methods to expose, or every known one. -/
  methods : Option (List String)
  /-- The root that every server is told, or the working directory. -/
  workspace : Option String
  /-- A directory whose metadata replaces the bundled one. -/
  resources : Option String
  deriving DecidableEq, Repr, Inhabited

end LspGateway
