import AppGateway.CommandLine.Options
import AppGateway.Config.Document
import AppGateway.Text.Blank

/-!
# Starting up

Before anything is served, the configuration is read and validated, then the files of the TLS identity are read.  What goes
wrong is reported with its causes, the outermost first.
-/

namespace AppGateway

/-- Why the program cannot start. -/
inductive StartupError where
  | config (path : String) (fault : Fault)
  | file (path : String) (problem : FileProblem)
  | noCluster
deriving DecidableEq, Repr, Inhabited

namespace StartupError

/-- What went wrong. -/
def message : StartupError → String
  | .config path _ => "Failed to load config " ++ path
  | .file path _ => "Failed to read " ++ path
  | .noCluster => "Failed to create Kubernetes client"

/-- Why it went wrong, the outermost cause first. -/
def causes : StartupError → List String
  | .config _ fault =>
    fault.message ::
      match fault with
      | .file _ problem => [problem.message]
      | _ => []
  | .file _ problem => [problem.message]
  | .noCluster => []

/-- A cause with an indentation, which further lines have as blanks. -/
def indented (start cause : String) : String :=
  let blanks := String.ofList (List.replicate start.length ' ')
  start ++ String.intercalate ("\n" ++ blanks) ((Text.splitOn '\n' cause.toList).map String.ofList)

/-- The causes as they are reported; several are numbered. -/
def causesText (e : StartupError) : String :=
  match e.causes with
  | [cause] => indented "    " cause
  | causes => String.intercalate "\n" (causes.zipIdx.map fun (cause, i) => indented ("    " ++ toString i ++ ": ") cause)

/-- The report of an error. -/
def report (e : StartupError) : String :=
  "Error: " ++ e.message ++ (if e.causes.isEmpty then "" else "\n\nCaused by:\n" ++ e.causesText)

end StartupError

/-- What is served with. -/
structure Setup where
  config : ResourceConfig
  bindAddress : SocketAddress
  /-- The certificate and its private key. -/
  tls : Option (String × String) := none
deriving DecidableEq, Repr, Inhabited

namespace Setup

variable {m : Type → Type} [Monad m]

/-- Reads a file of the TLS identity. -/
def readIdentity (readFile : String → m (Except FileProblem String)) (path : String) :
    ExceptT StartupError m String := do
  match ← readFile path with
  | .ok text => return text
  | .error problem => throw (.file path problem)

/-- Reads what is served with. -/
def ofOptions (readFile : String → m (Except FileProblem String)) (o : ServeOptions) :
    ExceptT StartupError m Setup := do
  let config ← match ResourceConfig.ofFile o.config (← readFile o.config) with
    | .ok config => pure config
    | .error fault => throw (.config o.config fault)
  match o.tls with
  | none => return { config, bindAddress := o.bindAddress }
  | some (certificate, privateKey) =>
    let certificate ← readIdentity readFile certificate
    let privateKey ← readIdentity readFile privateKey
    return { config, bindAddress := o.bindAddress, tls := some (certificate, privateKey) }

end Setup

end AppGateway
