import AppGateway.Config.Definition
import AppGateway.Gateway.Failure
import AppGateway.Resource.Application
import AppGateway.Text.Case

/-!
# The types served

The registry holds the definitions served, in the order of the configuration, and finds them by plural.  The
discovery documents tell clients of them.
-/

namespace AppGateway

namespace ResourceDefinition

/-- The plural and group of a type, as messages name it. -/
def groupResource (d : ResourceDefinition) : String :=
  d.application.plural ++ "." ++ apiGroup

/-- The singular of a type, which by default is its kind in lower case. -/
def singular (d : ResourceDefinition) : String :=
  if d.application.singular.isEmpty then Text.lowercase d.application.kind else d.application.singular

end ResourceDefinition

/-- The definitions served. -/
structure Registry where
  definitions : List ResourceDefinition := []
deriving DecidableEq, Repr, Inhabited

namespace Registry

/-- The registry of a configuration. -/
def ofConfig (config : ResourceConfig) : Registry := ⟨config.resources⟩

/-- The first definition with a plural. -/
def get? (r : Registry) (plural : String) : Option ResourceDefinition :=
  r.definitions.find? (·.application.plural == plural)

/-- The first definition with a plural, or the failure to find one. -/
def lookup (r : Registry) (plural : String) : Except Failure ResourceDefinition :=
  match r.get? plural with
  | some d => .ok d
  | none => .error (.resourceNotFound plural)

end Registry

namespace Discovery

/-- What clients may do with applications. -/
def verbs : List String := ["create", "delete", "get", "list", "patch", "update", "watch"]

private def versionJson : Json :=
  .object [("groupVersion", .string groupVersion), ("version", .string apiVersion)]

/-- The document about the group. -/
def group : Json :=
  .object [("apiVersion", .string "v1"), ("kind", .string "APIGroup"), ("name", .string apiGroup),
    ("preferredVersion", versionJson), ("versions", .array [versionJson])]

/-- The document about all groups. -/
def groups : Json :=
  .object [("apiVersion", .string "v1"), ("kind", .string "APIGroupList"), ("groups", .array [group])]

/-- The entry of a type. -/
def resource (d : ResourceDefinition) : Json :=
  .object (
    [("kind", .string d.application.kind), ("name", .string d.application.plural), ("namespaced", .bool true)]
    ++ Members.optional "shortNames"
      (if d.application.shortNames.isEmpty then none else some (.strings d.application.shortNames))
    ++ [("singularName", .string d.singular), ("verbs", .strings verbs)])

/-- The document about the types served. -/
def resources (r : Registry) : Json :=
  .object [("apiVersion", .string "v1"), ("kind", .string "APIResourceList"),
    ("groupVersion", .string groupVersion), ("resources", .array (r.definitions.map resource))]

end Discovery

end AppGateway
