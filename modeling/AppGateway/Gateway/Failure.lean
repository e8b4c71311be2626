import AppGateway.Backing.Error

/-!
# Failures of the gateway

Why a call through the gateway fails.  Every failure has a wording, an HTTP status code and a reason, and is shown to
clients as a `Status` object that holds all three.
-/

namespace AppGateway

/-- What a call was about to do. -/
inductive Operation where
  | create
  | get
  | list
  | update
  | patch
  | delete
  | watch
  | convertToTable
deriving DecidableEq, Repr, Inhabited

namespace Operation

/-- The name of an operation. -/
def toText : Operation → String
  | .create => "create"
  | .get => "get"
  | .list => "list"
  | .update => "update"
  | .patch => "patch"
  | .delete => "delete"
  | .watch => "watch"
  | .convertToTable => "convert-to-table"

/-- All operations. -/
def all : List Operation := [.create, .get, .list, .update, .patch, .delete, .watch, .convertToTable]

/-- Reads the name of an operation. -/
def ofText? (s : String) : Option Operation := all.find? (·.toText == s)

end Operation

/-- Why a call failed. -/
inductive Failure where
  /-- The request names no namespace. -/
  | namespaceRequired (operation : Operation)
  /-- A record cannot be shown as, or written from, an application. -/
  | conversion (operation : Operation) (name message : String)
  /-- The record does not exist, or is none of this type. -/
  | backingNotFound (name : String) (status : ErrorResponse)
  /-- The backing store refused or failed. -/
  | backingFailed (operation : Operation) (name : String) (source : BackingError)
  /-- The object cannot be shown in the form asked for. -/
  | notAcceptable (resource message : String)
  /-- The request is malformed. -/
  | badRequest (message : String)
  /-- No type of application is served at this path. -/
  | resourceNotFound (path : String)
deriving DecidableEq, Repr, Inhabited

namespace Failure

/-- A failure of the backing store; its answer that a record is missing is kept as it is. -/
def ofBacking (operation : Operation) (name : String) (source : BackingError) : Failure :=
  match source with
  | .api e => if e.code = 404 then .backingNotFound name e else .backingFailed operation name source
  | _ => .backingFailed operation name source

/-- The failure to find a record, worded as the backing store would. -/
def notFound (resource name : String) : Failure :=
  .backingNotFound name {
    status := "Failure"
    message := resource ++ " \"" ++ name ++ "\" not found"
    reason := "NotFound"
    code := 404 }

/-- The wording of a failure. -/
def message : Failure → String
  | .namespaceRequired operation => "namespace is required for " ++ operation.toText
  | .conversion operation name message =>
    "conversion error during " ++ operation.toText ++ " of " ++ name ++ ": " ++ message
  | .backingNotFound _ status => status.message
  | .backingFailed operation name source =>
    "failed to " ++ operation.toText ++ " " ++ name ++ ": " ++ source.message
  | .notAcceptable _ message => message
  | .badRequest message => "bad request: " ++ message
  | .resourceNotFound path => "the server could not find the requested resource (" ++ path ++ ")"

/-- The HTTP status code of a failure.  A code of the backing store is passed on if it is one at all. -/
def code : Failure → Nat
  | .namespaceRequired _ => 400
  | .conversion .. => 500
  | .backingNotFound .. => 404
  | .backingFailed _ _ (.api e) => if 100 ≤ e.code ∧ e.code ≤ 999 then e.code else 500
  | .backingFailed .. => 500
  | .notAcceptable .. => 406
  | .badRequest _ => 400
  | .resourceNotFound _ => 404

/-- The reason of a failure, in one word. -/
def reason : Failure → String
  | .namespaceRequired _ => "BadRequest"
  | .conversion .. => "InternalError"
  | .backingNotFound _ status => status.reason
  | .backingFailed _ _ (.api e) => if e.reason.isEmpty then "InternalError" else e.reason
  | .backingFailed .. => "InternalError"
  | .notAcceptable .. => "NotAcceptable"
  | .badRequest _ => "BadRequest"
  | .resourceNotFound _ => "NotFound"

/-- The `Status` object of a failure. -/
def toStatus (f : Failure) : Json :=
  .object [("kind", .string "Status"), ("apiVersion", .string "v1"), ("metadata", .object []),
    ("status", .string "Failure"), ("message", .string f.message), ("reason", .string f.reason),
    ("code", .int f.code)]

end Failure

end AppGateway
