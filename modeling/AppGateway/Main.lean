import AppGateway.CommandLine.Startup

/-!
# The program

Reads options and files, and tells what keeps it from serving.  Serving takes a connection to a cluster, which cannot be
opened from here.
-/

open AppGateway

/-- What keeps a file from being read. -/
def fileProblem : IO.Error → FileProblem
  | .noFileOrDirectory .. => .notFound
  | .permissionDenied .. => .permissionDenied
  | .inappropriateType _ code _ => if code = 21 then .isADirectory else .notADirectory
  | e => .other e.toString

/-- Reads a file. -/
def readText (path : String) : IO (Except FileProblem String) := do
  try
    let bytes ← IO.FS.readBinFile path
    match String.fromUTF8? bytes with
    | some text => return .ok text
    | none => return .error .notText
  catch e => return .error (fileProblem e)

/-- Starts up, and gives the exit code. -/
def start (o : ServeOptions) : IO UInt32 := do
  match ← (Setup.ofOptions readText o).run with
  | .ok _ => IO.eprintln StartupError.noCluster.report
  | .error e => IO.eprintln e.report
  return 1

def main (args : List String) : IO UInt32 := do
  let values ← ValueOption.all.mapM fun o => return (o.envName, ← IO.getEnv o.envName)
  let environment (name : String) : Option String := (values.lookup name).join
  match Invocation.read args environment with
  | .ok .help => IO.print (helpText environment); return 0
  | .ok .version => IO.println versionText; return 0
  | .ok (.serve o) => start o
  | .error e =>
    IO.eprintln ("error: " ++ e.message ++ "\n\nFor more information, try '--help'.")
    return 2
