import AppGateway.Backing.Call
import AppGateway.Http.Message
import AppGateway.Http.Status
import AppGateway.Resource.Release

/-!
# Calls over HTTP

`BackingCall.request?` puts a call into the request that is sent to the store, and `BackingCall.answerOf` reads the
answer out of the response.  The address is put together from namespace and name as they are; a name that is empty, or
makes the address one that cannot be sent, fails before anything is sent.
-/

namespace AppGateway

/-- A request as it is sent to the store. -/
structure WireRequest where
  method : String
  target : Http.Target
  accept : Option String := none
  contentType : Option String := none
  body : Option Json := none
deriving Repr, Inhabited, BEq

/-- A response as it comes from the store. -/
structure WireResponse where
  status : Nat
  body : String
deriving DecidableEq, Repr, Inhabited

/-- The name under which applied patches are kept apart from those of others. -/
def fieldManager : String := "apprelay"

/-- The number of seconds after which a watch ends. -/
def watchSeconds : Nat := 290

namespace Patch

/-- The media type of a patch. -/
def mediaType : Patch → String
  | .json _ => "application/json-patch+json"
  | .merge _ => "application/merge-patch+json"
  | .strategic _ => "application/strategic-merge-patch+json"
  | .apply _ => "application/apply-patch+yaml"

/-- What the address of a patch asks for. -/
def query : Patch → List (String × String)
  | .apply _ => [("fieldManager", fieldManager)]
  | _ => []

end Patch

namespace BackingCall

/-- The address of the releases of a namespace. -/
def collectionAddress (ns : String) : String :=
  "/apis/" ++ releaseApiVersion ++ "/namespaces/" ++ ns ++ "/" ++ releasePlural

/-- The address of a release. -/
def itemAddress (ns name : String) : String :=
  collectionAddress ns ++ "/" ++ name

/-- An address with a query. -/
def withQuery (address : String) (pairs : List (String × String)) : String :=
  address ++ "?" ++ String.join (pairs.map fun pair => "&" ++ Http.encodeForm [pair])

/-- A pair of a query that is left out when it has no value. -/
def optionalPair (name : String) (value : Option String) : List (String × String) :=
  (value.map fun v => (name, v)).toList

/-- What the address of a list or watch asks for, apart from selectors in between. -/
def selectorPairs (labels fields : Option Selector) : List (String × String) :=
  optionalPair "fieldSelector" fields ++ optionalPair "labelSelector" labels

/-- The address that a call goes to. -/
def address : BackingCall → String
  | .list ns labels fields => withQuery (collectionAddress ns) (selectorPairs labels fields)
  | .get ns name => itemAddress ns name
  | .create ns _ => withQuery (collectionAddress ns) []
  | .replace ns name _ => withQuery (itemAddress ns name) []
  | .patch ns name p => withQuery (itemAddress ns name) p.query
  | .delete ns name => withQuery (itemAddress ns name) []
  | .watch ns labels fields version =>
    withQuery (collectionAddress ns) ([("watch", "true"), ("timeoutSeconds", toString watchSeconds)]
      ++ selectorPairs labels fields ++ [("allowWatchBookmarks", "true"), ("resourceVersion", version)])

/-- The name of the release that a call is about, if it is about one. -/
def itemName? : BackingCall → Option String
  | .get _ name => some name
  | .replace _ name _ => some name
  | .patch _ name _ => some name
  | .delete _ name => some name
  | _ => none

/-- The request of a call to a target. -/
def requestTo (target : Http.Target) : BackingCall → WireRequest
  | .list .. => { method := "GET", target }
  | .get .. => { method := "GET", target }
  | .watch .. => { method := "GET", target }
  | .create _ record =>
    { method := "POST", target, contentType := some "application/json", body := some record.toJson }
  | .replace _ _ record =>
    { method := "PUT", target, contentType := some "application/json", body := some record.toJson }
  | .patch _ _ p =>
    { method := "PATCH", target, accept := some "application/json", contentType := some p.mediaType,
      body := some p.document }
  | .delete .. => { method := "DELETE", target, contentType := some "application/json", body := some (.object []) }

/-- The request of a call; none when it cannot be sent. -/
def request? (c : BackingCall) : Option WireRequest :=
  if c.itemName? = some "" then none else (Http.Target.ofText? c.address).map (requestTo · c)

end BackingCall

/-- What is read of the status object that tells of a deletion. -/
structure DeletionStatus where
  status : Option String := none
  message : String := ""
  reason : String := ""
  code : Nat := 0
deriving DecidableEq, Repr, Inhabited

namespace DeletionStatus

/-- The fields of a status, in order. -/
def fields : List String := ["status", "code", "message", "reason", "details"]

/-- Reads the summary of a status. -/
def summary? : Json → Option String
  | .string "Success" => some "Success"
  | .string "Failure" => some "Failure"
  | _ => none

/-- The fields of a cause, in order. -/
def causeFields : List String := ["reason", "message", "field"]

/-- Whether a value can be read as a cause. -/
def cause? (j : Json) : Option Unit := do
  let ms ← Json.fields? causeFields j
  causeFields.forM fun key => discard (Members.read ms key Json.string? "")

/-- The fields of the details of a status, in order. -/
def detailFields : List String := ["name", "group", "kind", "uid", "causes", "retryAfterSeconds"]

/-- Reads an unsigned 32-bit integer. -/
def word32? (j : Json) : Option Nat :=
  j.int64?.bind fun n => if Word.holdsUnsigned 32 n then some n.toNat else none

/-- Whether a value can be read as the details of a status. -/
def details? (j : Json) : Option Unit := do
  let ms ← Json.fields? detailFields j
  ["name", "group", "kind", "uid"].forM fun key => discard (Members.read ms key Json.string? "")
  discard (Members.read ms "causes" (Json.listOf cause?) [])
  discard (Members.read ms "retryAfterSeconds" word32? 0)

/-- Reads a status. -/
def ofJson? (j : Json) : Option DeletionStatus := do
  let ms ← Json.fields? fields j
  discard (Members.nullable ms "details" details?)
  return {
    status := ← Members.nullable ms "status" summary?
    message := ← Members.read ms "message" Json.string? ""
    reason := ← Members.read ms "reason" Json.string? ""
    code := ← Members.read ms "code" Json.word16? 0 }

/-- What is read of a status. -/
def shape : Shape :=
  .ofFields fields [("details", .ofFields detailFields [("causes", .list (.ofFields causeFields []))])]

end DeletionStatus

namespace RecordList

/-- Reads a list of records. -/
def ofJson? (j : Json) : Option RecordList := do
  let ms ← Json.strictMembers? ["metadata", "items"] j
  let metadata ← Members.read ms "metadata" ListMeta.ofJson? {}
  let items ← Members.required ms "items" (Json.nullable (Json.listOf Record.ofJson?))
  return { resourceVersion := metadata.resourceVersion, items := items.getD [] }

/-- What is read of a list of records. -/
def shape : Shape := .record [("metadata", ListMeta.shape), ("items", .list Record.shape)] true

end RecordList

/-- What is read of an event. -/
def RecordEvent.shape : Shape := .ofFields ["type", "object"] [("object", Record.shape)]

namespace WireResponse

/-- The error that a response tells of. -/
def error (r : WireResponse) : BackingError :=
  match (Json.parseAs ErrorResponse.shape r.body).bind ErrorResponse.ofJson? with
  | some e => .api e
  | none =>
    .api {
      status := Http.statusLine r.status
      message := Text.quoted r.body
      reason := "Failed to parse error data"
      code := r.status }

/-- Reads the body of a response, unless its status tells of an error. -/
def read {α : Type} (r : WireResponse) (read : String → Option α) : Except BackingError α :=
  if Http.isErrorStatus r.status then .error r.error
  else
    match read r.body with
    | some a => .ok a
    | none => .error .unreadable

/-- Reads a record. -/
def record? (body : String) : Option Record :=
  (Json.parseAs Record.shape body).bind Record.ofJson?

/-- Reads a list of records. -/
def list? (body : String) : Option RecordList :=
  (Json.parseAs RecordList.shape body).bind RecordList.ofJson?

/-- Reads the answer to a deletion: a status, or the record that was deleted. -/
def deletion? (body : String) : Option Unit := do
  let whole ← Json.parse body
  if whole.member? "kind" == some (.string "Status") then
    discard ((Json.parseAs DeletionStatus.shape body).bind DeletionStatus.ofJson?)
  else discard (record? body)

/-- Reads a line of a watch: an event, or else an error; a line that is neither counts as unreadable. -/
def item (line : String) : WatchItem :=
  match (Json.parseAs RecordEvent.shape line).bind RecordEvent.ofJson? with
  | some event => .ok event
  | none =>
    match (Json.parseAs ErrorResponse.shape line).bind ErrorResponse.ofJson? with
    | some e => .error (.api e)
    | none => .error .unreadable

/-- The lines of a body; what follows the last line break is a line unless it is empty. -/
def lines (body : String) : List String :=
  let parts := Text.splitOn '\n' body.toList
  let parts := if parts.getLast? == some [] then parts.dropLast else parts
  parts.map String.ofList

/-- Reads a watch, line by line and whatever the status. -/
def items (r : WireResponse) : List WatchItem := (lines r.body).map item

end WireResponse

/-- The answer to a call that a response gives. -/
def BackingCall.answerOf (r : WireResponse) : (c : BackingCall) → c.Answer
  | .list .. => r.read WireResponse.list?
  | .get .. => r.read WireResponse.record?
  | .create .. => r.read WireResponse.record?
  | .replace .. => r.read WireResponse.record?
  | .patch .. => r.read WireResponse.record?
  | .delete .. => r.read WireResponse.deletion?
  | .watch .. => .ok r.items

end AppGateway
