import AppGateway.Backing.Rehearsal
import AppGateway.Backing.Wire

/-!
# A backing store behind HTTP

A `WireServer` answers requests from a rehearsed store in memory: objects as they are stored, lists with the version of the
store, errors under their own code, and watches as one event a line.  It keeps the requests that it was sent.  With
`WireServer.answer` it takes the place of a store that is reached directly.
-/

namespace AppGateway

/-- What a request to the store is about. -/
structure WireTarget where
  kind : CallKind
  ns : String
  name : String := ""
deriving DecidableEq, Repr, Inhabited

namespace WireTarget

/-- The namespace and the name in the path to releases; a collection has no name. -/
def ofPath? (path : String) : Option (String × Option String) := do
  let segments ← ((Text.splitOn '/' path.toList).drop 1).mapM Http.decodeSegment?
  match segments with
  | [apis, group, version, "namespaces", ns, plural] =>
    if apis = "apis" ∧ group = releaseGroup ∧ version = releaseVersion ∧ plural = releasePlural then some (ns, none)
    else none
  | [apis, group, version, "namespaces", ns, plural, name] =>
    if apis = "apis" ∧ group = releaseGroup ∧ version = releaseVersion ∧ plural = releasePlural then
      some (ns, some name)
    else none
  | _ => none

/-- What a request is about; none for a request that the store does not know. -/
def ofRequest? (q : WireRequest) : Option WireTarget := do
  let isWatch := (Http.formPairs (q.target.query.getD "")).contains ("watch", "true")
  match q.method, ← ofPath? q.target.path with
  | "GET", (ns, none) => some { kind := if isWatch then .watch else .list, ns }
  | "POST", (ns, none) => some { kind := .create, ns }
  | "GET", (ns, some name) => some { kind := .get, ns, name }
  | "PUT", (ns, some name) => some { kind := .replace, ns, name }
  | "PATCH", (ns, some name) => some { kind := .patch, ns, name }
  | "DELETE", (ns, some name) => some { kind := .delete, ns, name }
  | _, _ => none

end WireTarget

namespace WireResponse

/-- A response that carries a value. -/
def ofJson (j : Json) : WireResponse := ⟨200, j.toText⟩

/-- The response of an error. -/
def ofError : BackingError → WireResponse
  | .api e => ⟨e.code, e.toJson.toText⟩
  | _ => ⟨200, ""⟩

/-- The response that carries an object, or an error. -/
def ofAnswer : Except BackingError Json → WireResponse
  | .ok j => ofJson j
  | .error e => ofError e

end WireResponse

namespace MemoryStore

/-- The list of the values stored in a namespace. -/
def listObject (s : MemoryStore) (ns : String) : Json :=
  .object [("apiVersion", .string releaseApiVersion), ("kind", .string (releaseKind ++ "List")),
    ("metadata", .object (Members.optional "resourceVersion" (s.listRevision.map .string))),
    ("items", .array (s.list ns))]

/-- The status that tells of a deletion. -/
def deletedObject : Json :=
  .object [("apiVersion", .string "v1"), ("kind", .string "Status"), ("status", .string "Success")]

/-- The response to a request. -/
def respond (s : MemoryStore) (q : WireRequest) (t : WireTarget) : WireResponse × MemoryStore :=
  let body := q.body.getD .null
  match t.kind with
  | .list => (.ofJson (s.listObject t.ns), s)
  | .get => (.ofAnswer (s.get t.ns t.name), s)
  | .create => (s.create t.ns body).map .ofAnswer id
  | .replace => (s.replace t.ns t.name body).map .ofAnswer id
  | .patch =>
    let operations := q.contentType == some (Patch.mediaType (.json []))
    (s.patch t.ns t.name (if operations then none else some body)).map .ofAnswer id
  | .delete => (s.delete t.ns t.name).map (fun r => .ofAnswer (r.map fun _ => deletedObject)) id
  | .watch => (⟨200, String.join (s.events.map fun e => e.toText ++ "\n")⟩, s)

end MemoryStore

/-- A store behind HTTP, and the requests that it was sent. -/
structure WireServer where
  store : MemoryStore := {}
  plan : List (CallKind × List (Option PlannedOutcome)) := []
  requests : List WireRequest := []
deriving Repr, Inhabited, BEq

namespace WireServer

/-- The response that is planned for a kind of call, if one is. -/
def planned? (kind : CallKind) : Option PlannedOutcome → Option WireResponse
  | some (.fails e) => some (.ofError e)
  | some (.sends status body) => some ⟨status, body⟩
  | some (.gives object) =>
    if [CallKind.get, .create, .replace, .patch].contains kind then some (.ofJson object) else none
  | none => none

/-- Answers a request and keeps it. -/
def handle (s : WireServer) (q : WireRequest) : WireResponse × WireServer :=
  let s := { s with requests := s.requests ++ [q] }
  match WireTarget.ofRequest? q with
  | none => (⟨404, "not found"⟩, s)
  | some t =>
    let (outcome, plan) := Rehearsal.takeFrom t.kind s.plan
    match planned? t.kind outcome with
    | some response => (response, { s with plan })
    | none =>
      let (response, store) := s.store.respond q t
      (response, { s with store, plan })

/-- Answers a call by its request and the response to it. -/
def answer (c : BackingCall) (s : WireServer) : c.Answer × WireServer :=
  match c.request? with
  | none => (.error .unsendable, s)
  | some q =>
    let (response, s) := s.handle q
    (c.answerOf response, s)

end WireServer

end AppGateway
