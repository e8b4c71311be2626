import AppGateway.Gateway.Applications
import AppGateway.Gateway.Table
import AppGateway.Http.Route
import AppGateway.Json.Shape
import AppGateway.Watch.Session
import AppGateway.Yaml.Value

/-!
# The HTTP interface

`Server.handle` answers a request by an exchange with the backing store.  Collections and items are addressed as

* `/apis/<group>/<version>/namespaces/<namespace>/<plural>` to list, watch and create, and
* `/apis/<group>/<version>/namespaces/<namespace>/<plural>/<name>` to get, put, patch and delete.

A request that accepts `as=Table` is answered with a table in place of applications.  Every failure is answered with a
`Status` object.
-/

namespace AppGateway

namespace Http

/-- What the query of a request to a collection asks for. -/
structure CollectionQuery where
  labels : Option String := none
  fields : Option String := none
  resourceVersion : Option String := none
  watch : Option String := none
deriving DecidableEq, Repr, Inhabited

namespace CollectionQuery

/-- Reads a query, unless it names one of its parameters twice. -/
def ofPairs? (pairs : List (String × String)) : Option CollectionQuery :=
  let names := ["labelSelector", "fieldSelector", "resourceVersion", "watch"]
  if names.all fun n => (pairs.filter (·.1 == n)).length ≤ 1 then
    some {
      labels := pairs.lookup "labelSelector"
      fields := pairs.lookup "fieldSelector"
      resourceVersion := pairs.lookup "resourceVersion"
      watch := pairs.lookup "watch" }
  else none

/-- Whether a watch is asked for. -/
def isWatch (q : CollectionQuery) : Bool :=
  q.watch == some "true" || q.watch == some "1"

/-- What the list or watch is restricted to. -/
def options (q : CollectionQuery) : ListOptions where
  labels := q.labels
  fields := q.fields
  resourceVersion := q.resourceVersion

end CollectionQuery

namespace Request

/-- Whether a media type carries the parameter that asks for a table. -/
def asksForTable (media : List Char) : Bool :=
  (Text.splitOn ';' media).any fun parameter => Text.trim parameter == "as=Table".toList

/-- Whether a table is asked for. -/
def wantsTable (r : Request) : Bool :=
  ((r.headerValues "accept").filterMap readable?).any fun value =>
    (Text.splitOn ',' value.toList).any asksForTable

/-- The media type of the body, without parameters. -/
def mediaType (r : Request) : String :=
  String.ofList (Text.trim (((Text.splitOn ';' (r.headerText "content-type").toList).head?).getD []))

/-- The failure to read a body. -/
def unreadableBody : Failure :=
  .badRequest ("failed to decode request body: " ++ Fault.unexpectedStructure)

/-- Reads the parts of the body that a shape names. -/
def readBody {α : Type} (r : Request) (shape : Shape) (read : Json → Option α) : Except Failure α :=
  match (Json.parseAs shape r.body).bind read with
  | some a => .ok a
  | none => .error unreadableBody

/-- Reads the application in the body. -/
def application (r : Request) : Except Failure Application :=
  r.readBody Application.shape Application.ofJson?

/-- Reads the patch in the body, by its media type. -/
def patch (r : Request) : Except Failure Patch :=
  match r.mediaType with
  | "application/json-patch+json" =>
    (r.readBody PatchOperation.listShape (Json.listOf PatchOperation.ofJson?)).map .json
  | "application/merge-patch+json" => (r.readBody .whole Json.any).map .merge
  | "application/strategic-merge-patch+json" => (r.readBody .whole Json.any).map .strategic
  | "application/apply-patch+yaml" =>
    match Yaml.value? r.body with
    | some document => .ok (.apply document)
    | none => .error (.badRequest ("failed to decode apply patch: " ++ Fault.unexpectedStructure))
  | other => .error (.badRequest ("unsupported patch content type " ++ Text.quoted other))

end Request

/-- What requests are answered by: the types served, the moment, and whether the server is shutting down. -/
structure Server where
  registry : Registry
  now : Timestamp
  shutdown : Bool := false
deriving Inhabited

namespace Server

/-- The answer to a request that failed. -/
def failed (f : Failure) : Response :=
  .json f.code f.toStatus

/-- The answer of an action. -/
def respond {α : Type} (action : Action α) (answer : α → Response) : Exchange Response := do
  match ← action.run with
  | .ok a => return answer a
  | .error f => return failed f

/-- The type served at a group, version and plural. -/
def resolve (s : Server) (group version plural : String) : Except Failure ResourceDefinition :=
  if group ≠ apiGroup ∨ version ≠ apiVersion then .error (.resourceNotFound (group ++ "/" ++ version))
  else s.registry.lookup plural

/-- An object, or the table of it if a table is asked for. -/
def rendered (s : Server) (r : Request) (d : ResourceDefinition) (status : Nat) (object : Json)
    (source : TableSource) : Response :=
  if r.wantsTable then
    match Table.render source true d.groupResource s.now with
    | .ok table => .json status table.toJson
    | .error f => failed f
  else .json status object

/-- An application, or the table of it. -/
def renderedApplication (s : Server) (r : Request) (d : ResourceDefinition) (status : Nat) (app : Application) :
    Response :=
  s.rendered r d status app.toJson (.application app)

/-- The answer to a list, or its table. -/
def list (s : Server) (r : Request) (d : ResourceDefinition) (ns : String) (q : CollectionQuery) :
    Exchange Response :=
  respond (d.list (some ns) q.options) fun list => s.rendered r d 200 list.toJson (.list list)

/-- The answer to a watch: the events, one a line.  A server that is shutting down delivers none. -/
def watch (s : Server) (d : ResourceDefinition) (ns : String) (q : CollectionQuery) : Exchange Response :=
  respond (d.watch (some ns) q.options) fun items =>
    .lines ((Session.onItems d items s.shutdown).events.map ApplicationEvent.toJson)

/-- Creates the application in the body. -/
def create (s : Server) (r : Request) (d : ResourceDefinition) (ns : String) : Exchange Response :=
  respond (do d.create (some ns) (← Action.of r.application)) fun app => s.renderedApplication r d 201 app

/-- Gets an application. -/
def get (s : Server) (r : Request) (d : ResourceDefinition) (ns name : String) : Exchange Response :=
  respond (d.get (some ns) name) fun app => s.renderedApplication r d 200 app

/-- Puts the application in the body in place of the one that is there, if any. -/
def put (s : Server) (r : Request) (d : ResourceDefinition) (ns name : String) : Exchange Response :=
  respond
    (do
      let desired ← Action.of r.application
      d.update (some ns) name (fun _ => .ok desired) true)
    fun (app, created) => s.renderedApplication r d (if created then 201 else 200) app

/-- Applies the patch in the body. -/
def patch (s : Server) (r : Request) (d : ResourceDefinition) (ns name : String) : Exchange Response :=
  respond (do d.patch (some ns) name (← Action.of r.patch)) fun app => s.renderedApplication r d 200 app

/-- The `Status` object of a deletion. -/
def deletedStatus (plural name : String) : Json :=
  .object [("kind", .string "Status"), ("apiVersion", .string "v1"), ("metadata", .object []),
    ("status", .string "Success"),
    ("details", .object [("name", .string name), ("group", .string apiGroup), ("kind", .string plural)])]

/-- Deletes an application. -/
def delete (d : ResourceDefinition) (ns plural name : String) : Exchange Response :=
  respond (d.delete (some ns) name) fun _ => .json 200 (deletedStatus plural name)

/-- Goes on with the type served at a group, version and plural, if there is one. -/
def onType (s : Server) (group version plural : String) (answer : ResourceDefinition → Exchange Response) :
    Exchange Response :=
  match s.resolve group version plural with
  | .ok d => answer d
  | .error f => .done (failed f)

/-- Goes on with the query of a request, if it can be read. -/
def onQuery (r : Request) (answer : CollectionQuery → Exchange Response) : Exchange Response :=
  match CollectionQuery.ofPairs? r.queryPairs with
  | some q => answer q
  | none => .done (.text 400 ("Failed to deserialize query string: " ++ "a parameter is given twice"))

/-- The most bytes of a body that are read. -/
def bodyLimit : Nat := 2097152

/-- Goes on if the body of a request is not too long to be read. -/
def onBody (r : Request) (answer : Exchange Response) : Exchange Response :=
  if r.body.utf8ByteSize ≤ bodyLimit then answer
  else .done (.text 413 "Failed to buffer the request body: length limit exceeded")

/-- Answers a request to a collection of all namespaces: there is none. -/
def clusterCollection (s : Server) (group version plural : String) (q : CollectionQuery) : Response :=
  match s.resolve group version plural with
  | .ok _ => failed (.namespaceRequired (if q.isWatch then .watch else .list))
  | .error f => failed f

/-- Answers a request to a route whose parameters are decoded and whose methods allow it. -/
def handleRoute (s : Server) (r : Request) : Route → Exchange Response
  | .health => .done (.text 200 "ok")
  | .groups => .done (.json 200 Discovery.groups)
  | .group g =>
    .done (if g = apiGroup then .json 200 Discovery.group else failed (.resourceNotFound g))
  | .version g v =>
    .done (if g = apiGroup ∧ v = apiVersion then .json 200 (Discovery.resources s.registry)
      else failed (.resourceNotFound (g ++ "/" ++ v)))
  | .clusterCollection g v p => onQuery r fun q => .done (s.clusterCollection g v p q)
  | .collection g v ns p =>
    if r.method = "POST" then onBody r (s.onType g v p fun d => s.create r d ns)
    else
      onQuery r fun q => s.onType g v p fun d => if q.isWatch then s.watch d ns q else s.list r d ns q
  | .item g v ns p name =>
    match r.method with
    | "PUT" => onBody r (s.onType g v p fun d => s.put r d ns name)
    | "PATCH" => onBody r (s.onType g v p fun d => s.patch r d ns name)
    | "DELETE" => s.onType g v p fun d => delete d ns p name
    | _ => s.onType g v p fun d => s.get r d ns name

/-- A response without its body, if only its head is asked for. -/
def headOnly (r : Request) (response : Response) : Response :=
  if r.method = "HEAD" then { response with body := "" } else response

/-- Answers a request. -/
def handle (s : Server) (r : Request) : Exchange Response :=
  match Route.ofPath? r.target.path with
  | none => .done { status := 404 }
  | some route =>
    if !route.methods.contains r.method then
      .done { status := 405, allow := some (String.intercalate "," route.methods) }
    else
      match route.decoded with
      | .error name => .done (headOnly r (.text 400 ("Invalid URL: Invalid UTF-8 in \x60" ++ name ++ "\x60")))
      | .ok route => (s.handleRoute r route).andThen fun response => .done (headOnly r response)

end Server

end Http

end AppGateway
