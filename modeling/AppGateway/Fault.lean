/-!
# Faults of configuration and stored records

What can be wrong with a configuration file or with a record that should be a release.  `Fault.message` is the one
place where these faults are put into words.
-/

namespace AppGateway

/-- Why a file could not be read. -/
inductive FileProblem where
  | notFound
  | isADirectory
  | permissionDenied
  | notADirectory
  | notText
  | other (text : String)
deriving DecidableEq, Repr, Inhabited

namespace FileProblem

/-- The wording of a file problem. -/
def message : FileProblem → String
  | .notFound => "No such file or directory (os error 2)"
  | .isADirectory => "Is a directory (os error 21)"
  | .permissionDenied => "Permission denied (os error 13)"
  | .notADirectory => "Not a directory (os error 20)"
  | .notText => "stream did not contain valid UTF-8"
  | .other text => text

end FileProblem

/-- A fault of a configuration or of a stored record. -/
inductive Fault where
  /-- An entry of the configuration lacks something or contradicts another entry. -/
  | validation (index : Nat) (field : String) (message : String)
  /-- A file could not be read. -/
  | file (path : String) (problem : FileProblem)
  /-- A text or record does not have the expected structure; `kind` names what it should have been. -/
  | serialization (kind : Option String) (message : String)
deriving DecidableEq, Repr, Inhabited

namespace Fault

/-- What is said of a structure that cannot be read. -/
def unexpectedStructure : String := "unexpected structure"

/-- The wording of a fault. -/
def message : Fault → String
  | .validation index _ message => "invalid resource config at index " ++ toString index ++ ": " ++ message
  | .file path problem => "failed to read " ++ path ++ ": " ++ problem.message
  | .serialization _ message => "serialization error: " ++ message

end Fault

end AppGateway
