import LspGateway.CommandLine

/-! # The program

Reads a configuration and serves its tools over standard input and output, one
message a line. It starts no processes: the command of every server counts as
missing, and a call that needs a server is answered so.
-/

open LspGateway

namespace LspGateway.Program

/-- No command is found. -/
def withoutServers (_ : String) : List Policy := [{ Policy.plain with found := false }]

/-- What is at a path of the file system. -/
def readEntry (path : String) : IO (List (String × Entry)) := do
  try
    let bytes ← IO.FS.readBinFile path
    pure [(path, .file bytes.toList)]
  catch
    | .noFileOrDirectory .. => pure []
    | .permissionDenied .. => pure [(path, .denied)]
    | _ => pure [(path, .directory)]

/-- What is at each of several paths. -/
def readEntries (paths : List String) : IO (List (String × Entry)) := do
  let entries ← paths.mapM readEntry
  pure entries.flatten

/-- The variables of the environment that the program looks at. -/
def readEnvironment : IO Environment := do
  let names := [Config.pathVariable, Config.directoryVariable, Log.thresholdVariable]
  let values ← names.mapM fun name => do
    let value ← IO.getEnv name
    pure (value.toList.map fun v => (name, v))
  pure values.flatten

/-- The files a configuration may be in. -/
def configCandidates (cwd : String) (env : Environment) (args : List String) : List String :=
  let directory := (env.get? Config.directoryVariable).getD cwd
  (args.take 1 ++ (env.get? Config.pathVariable).toList ++
    Config.defaultNames.map (Path.child (Path.tidy directory))).map (Path.absolute cwd)

/-- The files with the metadata that a configuration names. -/
def metadataFiles (cwd : String) (config : Config) : List String :=
  match config.resources with
  | some directory =>
    [Catalog.modelName, Catalog.schemaName].map fun name =>
      Path.absolute cwd (Path.child (Path.tidy directory) name)
  | none => []

/-- The file that a message is about. -/
def documentFile (cwd : String) (message : Json) : List String :=
  match ((message.get? "params").bind (·.get? "arguments")).bind fun
      | .obj args => Routing.documentUri? args
      | _ => none with
  | some uri =>
    match Uri.toPath cwd uri with
    | .ok path => [path]
    | .error _ => []
  | none => []

/-- Writes the log to standard error. -/
def report (logs : List Log.Entry) : IO Unit := logs.forM fun e => IO.eprintln e.render

/-- Reports the end of a run. -/
def conclude (r : CommandLine.Result) : IO UInt32 := do
  report r.logs
  pure r.exitCode.toUInt32

/-- Serves the messages on standard input until it ends. -/
partial def serve (entries : List (String × Entry)) (cwd : String) (c : Conversation) :
    IO Conversation := do
  let line ← (← IO.getStdin).getLine
  if line.isEmpty then pure c
  else
    match Json.parse line.toList with
    | .error _ => serve entries cwd c
    | .ok message =>
      let documents ← readEntries (documentFile cwd message)
      let c := c.receive (Files.ofList (entries ++ documents) cwd) message
      report c.logs
      c.responses.forM fun r => IO.println r.compact
      (← IO.getStdout).flush
      let c : Conversation := { c with responses := [], logs := [] }
      if c.broken then pure c else serve entries cwd c

/-- Runs the program with the given arguments. -/
def run (args : List String) : IO UInt32 := do
  let cwd := toString (← IO.currentDir)
  let env ← readEnvironment
  let configs ← readEntries (configCandidates cwd env args)
  let found :=
    match CommandLine.loadConfig (Files.ofList configs cwd) env args with
    | .ok (_, config) => metadataFiles cwd config
    | .error _ => []
  let metadata ← readEntries found
  let entries := configs ++ metadata
  match CommandLine.start (Files.ofList entries cwd) env args withoutServers with
  | .error crash =>
    IO.eprintln crash.message
    pure 1
  | .ok (.ended r) => conclude r
  | .ok (.serving c logs) =>
    report logs
    let c ← serve entries cwd c
    if c.broken then
      IO.eprintln CommandLine.Crash.unwritable.message
      pure 1
    else conclude (CommandLine.finish c [] .inputEnds)

end LspGateway.Program

def main (args : List String) : IO UInt32 := Program.run args
