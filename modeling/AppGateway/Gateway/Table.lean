import AppGateway.Gateway.Failure
import AppGateway.Resource.Application

/-!
# Tables

A table shows applications as rows with the columns NAME, READY, AGE and VERSION.  An object given as plain JSON is
read first, as a list if it has an array of items and as an application otherwise.
-/

namespace AppGateway

/-- What a table is made from. -/
inductive TableSource where
  | application (app : Application)
  | list (list : ApplicationList)
  | untyped (value : Json)
deriving Inhabited

/-- A row: its cells, and the object that it shows. -/
structure TableRow where
  cells : List String
  object : Json
deriving Repr, Inhabited, BEq

/-- A table. -/
structure Table where
  metadata : ListMeta := {}
  headers : Bool := true
  rows : List TableRow := []
deriving Repr, Inhabited, BEq

namespace Table

/-- What stands in a cell whose content is not known. -/
def unknown : String := "<unknown>"

/-- The name and the meaning of each column. -/
def columns : List (String × String) :=
  [("NAME", "Name of the Application"), ("READY", "Ready status of the Application"),
    ("AGE", "Age of the Application"), ("VERSION", "Version of the Application")]

/-- The written definition of a column. -/
def columnJson (column : String × String) : Json :=
  .object [("name", .string column.1), ("type", .string "string"), ("format", .string ""),
    ("description", .string column.2), ("priority", .int 0)]

/-- The row of an application at a moment. -/
def row (now : Timestamp) (app : Application) : TableRow where
  cells := [
    app.name,
    app.readyStatus.toText,
    match app.metadata.creationTimestamp with
    | some created => (now.since created).ageText
    | none => unknown,
    if app.status.version.isEmpty then unknown else app.status.version]
  object := app.toJson

/-- The table of one application. -/
def ofApplication (headers : Bool) (now : Timestamp) (app : Application) : Table where
  metadata := { resourceVersion := app.metadata.resourceVersion }
  headers
  rows := [row now app]

/-- The table of a list. -/
def ofList (headers : Bool) (now : Timestamp) (list : ApplicationList) : Table where
  metadata := { resourceVersion := list.metadata.resourceVersion }
  headers
  rows := list.items.map (row now)

/-- The failure to read an object, under the name that it carries if it is text. -/
def unreadable (value : Json) : Failure :=
  let name := ((value.member? "metadata").bind (·.member? "name")).bind Json.string?
  .conversion .convertToTable (name.getD "")
    ("failed to convert object to Application: " ++ "unexpected structure")

/-- The table of a source.  `resource` names what was asked for when the source is no object at all. -/
def render (source : TableSource) (headers : Bool) (resource : String) (now : Timestamp) : Except Failure Table :=
  match source with
  | .application app => .ok (ofApplication headers now app)
  | .list list => .ok (ofList headers now list)
  | .untyped value =>
    if !value.isObject then
      .error (.notAcceptable resource "object does not implement the Object interfaces")
    else if ((value.member? "items").map Json.isArray).getD false then
      match ApplicationList.ofJson? value with
      | some list => .ok (ofList headers now list)
      | none => .error (unreadable value)
    else
      match Application.ofJson? value with
      | some app => .ok (ofApplication headers now app)
      | none => .error (unreadable value)

/-- The written table. -/
def toJson (t : Table) : Json :=
  .object [("apiVersion", .string "meta.k8s.io/v1"), ("kind", .string "Table"), ("metadata", t.metadata.toJson),
    ("columnDefinitions", .array (if t.headers then columns.map columnJson else [])),
    ("rows", .array (t.rows.map fun r => .object [("cells", .strings r.cells), ("object", r.object)]))]

end Table

end AppGateway
