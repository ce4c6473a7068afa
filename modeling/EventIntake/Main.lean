import EventIntake.Command.Course

/-!
# The program

Reads the arguments, the variables and the files that the settings name, and writes what comes of
them.
-/

namespace EventIntake.Main

/-- A tree with one more file of this host, if it can be read. -/
def withFile (files : Files.Tree) (path : String) : IO Files.Tree := do
  try
    return files.put path (.file (← IO.FS.readBinFile path))
  catch _ =>
    return files

def environment : IO Environment := do
  let pairs ← Variable.all.filterMapM fun v => do
    return (← IO.getEnv v.name).map (v.name, ·)
  return .ofList pairs

/-- The files that a receiver with these settings reads. -/
def paths (s : Settings) : List String :=
  [s.paths.producer, s.paths.httpServer, s.paths.contract]
    ++ ["backend", "zipkin-endpoint", "sample-rate"].map (TracingSettings.keyPath s.paths.tracing)
    ++ s.capability.tokenPath.toList

/-- All files that matter for a command line. -/
def files (environment : Environment) (arguments : List String) : IO Files.Tree := do
  match Command.parse arguments with
  | .run o =>
    let tree ← o.config.toList.foldlM withFile {}
    match Settings.load tree o.config environment with
    | .ok s => (paths s).foldlM withFile tree
    | .error _ => return tree
  | _ => return {}

end EventIntake.Main

def main (arguments : List String) : IO UInt32 := do
  let environment ← EventIntake.Main.environment
  let files ← EventIntake.Main.files environment arguments
  let write (out : IO.FS.Stream) (text : String) : IO Unit :=
    if text.isEmpty then pure () else out.putStrLn text
  let ending := (EventIntake.Command.run { files, environment } arguments).ending
  write (← IO.getStdout) ending.stdout
  write (← IO.getStderr) ending.stderr
  return ending.status.toUInt32
