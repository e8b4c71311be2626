import AppGateway.CommandLine.SocketAddress

/-!
# Options

What the program is told to do, by its arguments and by environment variables.  An argument counts before the
variable of the same option, and that before the default.  Arguments are read in order: the first one that asks for help
or the version, or cannot be used, decides.
-/

namespace AppGateway

/-- An option that has a value. -/
inductive ValueOption where
  | config
  | bindAddress
  | certificate
  | privateKey
deriving DecidableEq, Repr, Inhabited

namespace ValueOption

/-- All options with a value, in the order in which they are presented. -/
def all : List ValueOption := [.config, .bindAddress, .certificate, .privateKey]

/-- The name of an option. -/
def name : ValueOption → String
  | .config => "config"
  | .bindAddress => "bind-address"
  | .certificate => "tls-cert-file"
  | .privateKey => "tls-private-key-file"

/-- The name of an option in upper case, for its value and its variable. -/
def upperName (o : ValueOption) : String :=
  o.name.map fun c => if c = '-' then '_' else c.toUpper

/-- The environment variable of an option. -/
def envName (o : ValueOption) : String := "APPRELAY_" ++ o.upperName

/-- How an option is presented. -/
def usage (o : ValueOption) : String := "--" ++ o.name ++ " <" ++ o.upperName ++ ">"

/-- What an option is for. -/
def purpose : ValueOption → String
  | .config => "Resource configuration file"
  | .bindAddress => "Address to serve the API on"
  | .certificate => "TLS certificate file; plain HTTP when unset"
  | .privateKey => "TLS private key file"

/-- The value of an option that is not given. -/
def default? : ValueOption → Option String
  | .config => some "/etc/apprelay/config.yaml"
  | .bindAddress => some "0.0.0.0:6443"
  | _ => none

/-- Whether an option takes a value: paths are not empty, and an address is one. -/
def accepts : ValueOption → String → Bool
  | .bindAddress, value => (SocketAddress.ofText? value).isSome
  | _, value => !value.isEmpty

end ValueOption

/-- Why arguments and variables cannot be used. -/
inductive UsageError where
  | unexpected (argument : String)
  | unneeded (argument value : String)
  | valueMissing (o : ValueOption)
  | repeated (o : ValueOption)
  | refused (o : ValueOption) (value : String)
  | incomplete (given needed : ValueOption)
deriving DecidableEq, Repr, Inhabited

namespace UsageError

/-- The wording of a usage error. -/
def message : UsageError → String
  | .unexpected argument => "unexpected argument '" ++ argument ++ "' found"
  | .unneeded argument value =>
    "unexpected value '" ++ value ++ "' for '" ++ argument ++ "' found; no more were expected"
  | .valueMissing o => "a value is required for '" ++ o.usage ++ "' but none was supplied"
  | .repeated o => "the argument '" ++ o.usage ++ "' cannot be used multiple times"
  | .refused o value => "invalid value '" ++ value ++ "' for '" ++ o.usage ++ "'"
  | .incomplete _ needed => "the following required arguments were not provided: " ++ needed.usage

end UsageError

/-- What the program is told to serve. -/
structure ServeOptions where
  config : String
  bindAddress : SocketAddress
  /-- The files of the certificate and of its private key. -/
  tls : Option (String × String) := none
deriving DecidableEq, Repr, Inhabited

/-- What the program is told to do. -/
inductive Invocation where
  | help
  | version
  | serve (options : ServeOptions)
deriving DecidableEq, Repr, Inhabited

namespace Invocation

/-- What arguments come to: a request that is answered at once, or the values that they give. -/
inductive Arguments where
  | help
  | version
  | values (given : List (ValueOption × String))
deriving DecidableEq, Repr, Inhabited

/-- Takes the value of an option, given after those of `given`. -/
def give (given : List (ValueOption × String)) (o : ValueOption) (value : String) :
    Except UsageError (List (ValueOption × String)) :=
  if (given.lookup o).isSome then .error (.repeated o)
  else if o.accepts value then .ok ((o, value) :: given)
  else .error (.refused o value)

/-- Whether an argument stands for an option and not for a value. -/
def isOption (argument : String) : Bool := argument.startsWith "-" && argument ≠ "-"

/-- The option that an argument names. -/
def option? (name : List Char) : Option ValueOption :=
  ValueOption.all.find? fun o => ("--" ++ o.name).toList == name

/-- Reads the arguments after those that gave `given`. -/
def arguments (given : List (ValueOption × String)) : List String → Except UsageError Arguments
  | [] => .ok (.values given)
  | argument :: rest =>
    let name := argument.toList.takeWhile (· ≠ '=')
    let value? := (argument.toList.drop name.length).tail?.map String.ofList
    match option? name, value? with
    | some o, some value => do arguments (← give given o value) rest
    | some o, none =>
      match rest with
      | [] => .error (.valueMissing o)
      | value :: rest => do
        if isOption value then throw (.valueMissing o)
        arguments (← give given o value) rest
    | none, _ =>
      if argument = "--" then
        match rest with
        | [] => .ok (.values given)
        | extra :: _ => .error (.unexpected extra)
      else if String.ofList name = "--help" ∨ String.ofList name = "--version" then
        match value? with
        | some value => .error (.unneeded (String.ofList name) value)
        | none => .ok (if argument = "--help" then .help else .version)
      else
        match argument.toList with
        | '-' :: 'h' :: _ => .ok .help
        | '-' :: 'V' :: _ => .ok .version
        | _ => .error (.unexpected argument)

/-- The value of an option, from the arguments, its variable or its default. -/
def valueOf (given : List (ValueOption × String)) (environment : String → Option String) (o : ValueOption) :
    Except UsageError (Option String) :=
  match given.lookup o, environment o.envName with
  | some value, _ => .ok (some value)
  | none, some value => if o.accepts value then .ok (some value) else .error (.refused o value)
  | none, none => .ok o.default?

/-- Reads arguments and environment. -/
def read (args : List String) (environment : String → Option String) : Except UsageError Invocation := do
  match ← arguments [] args with
  | .help => return .help
  | .version => return .version
  | .values given =>
    let value := valueOf given environment
    let config ← value .config
    let address ← value .bindAddress
    let tls ← match ← value .certificate, ← value .privateKey with
      | none, none => pure none
      | some certificate, some privateKey => pure (some (certificate, privateKey))
      | some _, none => throw (.incomplete .certificate .privateKey)
      | none, some _ => throw (.incomplete .privateKey .certificate)
    match config, address.bind SocketAddress.ofText? with
    | some config, some bindAddress => return .serve { config, bindAddress, tls }
    | none, _ => throw (.valueMissing .config)
    | _, none => throw (.valueMissing .bindAddress)

end Invocation

/-- The name and version of the program. -/
def versionText : String := "apprelay 0.1.0"

/-- The description of the program and its options, with the values of their variables. -/
def helpText (environment : String → Option String) : String :=
  let described (o : ValueOption) : String :=
    "      " ++ o.usage ++ "\n          " ++ o.purpose ++ " [env: " ++ o.envName ++ "="
      ++ (environment o.envName).getD "" ++ "]"
      ++ ((o.default?.map fun value => " [default: " ++ value ++ "]").getD "") ++ "\n"
  "Apprelay - serves apps.cozystack.io Applications backed by HelmReleases\n\nUsage: apprelay [OPTIONS]\n\nOptions:\n"
    ++ String.join (ValueOption.all.map described)
    ++ "  -h, --help\n          Print help\n  -V, --version\n          Print version\n"

end AppGateway
