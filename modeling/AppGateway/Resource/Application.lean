import AppGateway.Resource.Condition

/-!
# Applications

The synthetic resource that clients see.  Applications are never stored; each one is computed from a release.
-/

namespace AppGateway

/-- The group and version under which applications are served. -/
def apiGroup : String := "apps.cozystack.io"

@[inherit_doc apiGroup]
def apiVersion : String := "v1alpha1"

/-- Group and version in one. -/
def groupVersion : String := apiGroup ++ "/" ++ apiVersion

/-- The observed state of an application. -/
structure ApplicationStatus where
  version : String := ""
  conditions : List Condition := []
deriving DecidableEq, Repr, Inhabited

namespace ApplicationStatus

/-- The fields of a status, in order. -/
def fields : List String := ["version", "conditions"]

/-- Reads a status. -/
def ofJson? (j : Json) : Option ApplicationStatus := do
  let ms ← Json.fields? fields j
  return {
    version := ← Members.read ms "version" Json.string? ""
    conditions := ← Members.read ms "conditions" (Json.listOf Condition.ofJson?) [] }

/-- The written status; empty fields are left out. -/
def toJson (s : ApplicationStatus) : Json :=
  .object (
    Members.optional "version" (if s.version.isEmpty then none else some (.string s.version))
    ++ Members.optional "conditions"
      (if s.conditions.isEmpty then none else some (.array (s.conditions.map Condition.toJson))))

/-- What is read of a status. -/
def shape : Shape := .ofFields fields [("conditions", .list Condition.shape)]

end ApplicationStatus

/-- An application. -/
structure Application where
  apiVersion : String := ""
  kind : String := ""
  metadata : ObjectMeta := {}
  spec : Option Json := none
  appVersion : String := ""
  status : ApplicationStatus := {}
deriving Repr, Inhabited, BEq

namespace Application

/-- The name of an application, empty when it has none. -/
def name (app : Application) : String := app.metadata.name.getD ""

/-- The status of the first condition about readiness. -/
def readyStatus (app : Application) : ConditionStatus :=
  ((app.status.conditions.find? (·.type == Condition.ready)).map (·.status)).getD .unknown

/-- The fields of an application, in order. -/
def fields : List String := ["apiVersion", "kind", "metadata", "spec", "appVersion", "status"]

/-- Reads an application. -/
def ofJson? (j : Json) : Option Application := do
  let ms ← Json.fields? fields j
  return {
    apiVersion := ← Members.read ms "apiVersion" Json.string? ""
    kind := ← Members.read ms "kind" Json.string? ""
    metadata := ← Members.read ms "metadata" ObjectMeta.ofJson? {}
    spec := ← Members.nullable ms "spec" Json.any
    appVersion := ← Members.read ms "appVersion" Json.string? ""
    status := ← Members.read ms "status" ApplicationStatus.ofJson? {} }

/-- The written application. -/
def toJson (app : Application) : Json :=
  .object (
    [("apiVersion", .string app.apiVersion), ("kind", .string app.kind), ("metadata", app.metadata.toJson)]
    ++ Members.optional "spec" app.spec
    ++ Members.optional "appVersion" (if app.appVersion.isEmpty then none else some (.string app.appVersion))
    ++ [("status", app.status.toJson)])

/-- What is read of an application. -/
def shape : Shape :=
  .ofFields fields [("metadata", ObjectMeta.shape), ("status", ApplicationStatus.shape)]

end Application

/-- A list of applications of one kind. -/
structure ApplicationList where
  apiVersion : String := ""
  kind : String := ""
  metadata : ListMeta := {}
  items : List Application := []
deriving Repr, Inhabited, BEq

namespace ApplicationList

/-- The list of these applications of a kind. -/
def ofItems (kind : String) (resourceVersion : Option String) (items : List Application) : ApplicationList where
  apiVersion := groupVersion
  kind := kind ++ "List"
  metadata := { resourceVersion }
  items

/-- The fields of a list, in order. -/
def fields : List String := ["apiVersion", "kind", "metadata", "items"]

/-- Reads a list. -/
def ofJson? (j : Json) : Option ApplicationList := do
  let ms ← Json.fields? fields j
  return {
    apiVersion := ← Members.read ms "apiVersion" Json.string? ""
    kind := ← Members.read ms "kind" Json.string? ""
    metadata := ← Members.read ms "metadata" ListMeta.ofJson? {}
    items := ← Members.read ms "items" (Json.listOf Application.ofJson?) [] }

/-- The written list. -/
def toJson (list : ApplicationList) : Json :=
  .object [("apiVersion", .string list.apiVersion), ("kind", .string list.kind),
    ("metadata", list.metadata.toJson), ("items", .array (list.items.map Application.toJson))]

end ApplicationList

end AppGateway
