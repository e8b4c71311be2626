import AppGateway.Json.Read
import AppGateway.Json.Shape
import AppGateway.Text.Quoted

/-!
# Errors of the backing store

Either the store answers with an error of its own, or a request or answer does not get through.
-/

namespace AppGateway

/-- An error that the backing store answers with. -/
structure ErrorResponse where
  status : String := "Failure"
  message : String := ""
  reason : String := ""
  code : Nat
deriving DecidableEq, Repr, Inhabited

namespace ErrorResponse

/-- The fields of an error, in order. -/
def fields : List String := ["status", "message", "reason", "code"]

/-- Reads an error; message and reason may be left out. -/
def ofJson? (j : Json) : Option ErrorResponse := do
  let ms ← Json.fields? fields j
  return {
    status := ← Members.required ms "status" Json.string?
    message := ← Members.read ms "message" Json.string? ""
    reason := ← Members.read ms "reason" Json.string? ""
    code := ← Members.required ms "code" Json.word16? }

/-- The written error. -/
def toJson (e : ErrorResponse) : Json :=
  .object [("status", .string e.status), ("message", .string e.message), ("reason", .string e.reason),
    ("code", .int e.code)]

/-- What is read of an error. -/
def shape : Shape := .ofFields fields []

/-- An error with all its parts told. -/
def detailed (e : ErrorResponse) : String :=
  "ErrorResponse \x7b status: " ++ Text.quoted e.status ++ ", message: " ++ Text.quoted e.message
    ++ ", reason: " ++ Text.quoted e.reason ++ ", code: " ++ toString e.code ++ " \x7d"

end ErrorResponse

/-- Why a call to the backing store failed. -/
inductive BackingError where
  /-- The store answered with an error. -/
  | api (response : ErrorResponse)
  /-- The answer is no object of the expected kind. -/
  | unreadable
  /-- The answer broke off within a line. -/
  | brokenLine
  /-- The request could not be put into words. -/
  | unsendable
deriving DecidableEq, Repr, Inhabited

namespace BackingError

/-- The wording of an error. -/
def message : BackingError → String
  | .api e => "ApiError: " ++ e.message ++ ": " ++ e.reason ++ " (" ++ e.detailed ++ ")"
  | .unreadable => "Error deserializing response: unexpected structure"
  | .brokenLine => "Error finding newline character"
  | .unsendable => "Failed to build request: the name is empty or not legal in a path"

end BackingError

end AppGateway
