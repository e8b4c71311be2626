import AppGateway.Json.Read
import AppGateway.Meta.StringMap

/-!
# Resource definitions

A definition names one type of application and gives the template of the releases that back it.  The configuration
is the list of the definitions served.
-/

namespace AppGateway

/-- How a type of application is presented to clients. -/
structure ResourceNames where
  kind : String
  singular : String := ""
  plural : String
  shortNames : List String := []
deriving DecidableEq, Repr, Inhabited

/-- Where the charts of a type come from. -/
structure SourceRef where
  kind : String
  name : String
  ns : String
deriving DecidableEq, Repr, Inhabited

/-- The chart that the releases of a type install, which tells them from other releases. -/
structure ChartIdentity where
  name : String
  source : SourceRef
deriving DecidableEq, Repr, Inhabited

/-- How the releases of a type are written. -/
structure ReleaseTemplate where
  namePrefix : String
  labels : StringMap := .empty
  chart : ChartIdentity
deriving DecidableEq, Repr, Inhabited

/-- A type of application and the template of the releases that back it. -/
structure ResourceDefinition where
  application : ResourceNames
  release : ReleaseTemplate
deriving DecidableEq, Repr, Inhabited

namespace ResourceNames

/-- Reads the names of a type. -/
def ofJson? (j : Json) : Option ResourceNames := do
  let ms ← Json.fields? ["kind", "singular", "plural", "shortNames"] j
  return {
    kind := ← Members.required ms "kind" Json.string?
    singular := ← Members.read ms "singular" Json.string? ""
    plural := ← Members.required ms "plural" Json.string?
    shortNames := ← Members.read ms "shortNames" (Json.listOf Json.string?) [] }

/-- The written names. -/
def toJson (n : ResourceNames) : Json :=
  .object [("kind", .string n.kind), ("singular", .string n.singular), ("plural", .string n.plural),
    ("shortNames", .strings n.shortNames)]

end ResourceNames

namespace SourceRef

/-- Reads a source. -/
def ofJson? (j : Json) : Option SourceRef := do
  let ms ← Json.fields? ["kind", "name", "namespace"] j
  return {
    kind := ← Members.required ms "kind" Json.string?
    name := ← Members.required ms "name" Json.string?
    ns := ← Members.required ms "namespace" Json.string? }

/-- The written source. -/
def toJson (s : SourceRef) : Json :=
  .object [("kind", .string s.kind), ("name", .string s.name), ("namespace", .string s.ns)]

end SourceRef

namespace ChartIdentity

/-- Reads a chart identity. -/
def ofJson? (j : Json) : Option ChartIdentity := do
  let ms ← Json.fields? ["name", "sourceRef"] j
  return {
    name := ← Members.required ms "name" Json.string?
    source := ← Members.required ms "sourceRef" SourceRef.ofJson? }

/-- The written chart identity. -/
def toJson (c : ChartIdentity) : Json :=
  .object [("name", .string c.name), ("sourceRef", c.source.toJson)]

end ChartIdentity

namespace ReleaseTemplate

/-- Reads a release template. -/
def ofJson? (j : Json) : Option ReleaseTemplate := do
  let ms ← Json.fields? ["prefix", "labels", "chart"] j
  return {
    namePrefix := ← Members.required ms "prefix" Json.string?
    labels := ← Members.read ms "labels" StringMap.ofJson? .empty
    chart := ← Members.required ms "chart" ChartIdentity.ofJson? }

/-- The written release template. -/
def toJson (t : ReleaseTemplate) : Json :=
  .object [("prefix", .string t.namePrefix), ("labels", t.labels.toJson), ("chart", t.chart.toJson)]

end ReleaseTemplate

namespace ResourceDefinition

/-- Reads a definition. -/
def ofJson? (j : Json) : Option ResourceDefinition := do
  let ms ← Json.fields? ["application", "release"] j
  return {
    application := ← Members.required ms "application" ResourceNames.ofJson?
    release := ← Members.required ms "release" ReleaseTemplate.ofJson? }

/-- The written definition. -/
def toJson (d : ResourceDefinition) : Json :=
  .object [("application", d.application.toJson), ("release", d.release.toJson)]

end ResourceDefinition

/-- The definitions served. -/
structure ResourceConfig where
  resources : List ResourceDefinition := []
deriving DecidableEq, Repr, Inhabited

namespace ResourceConfig

/-- Reads a configuration. -/
def ofJson? (j : Json) : Option ResourceConfig := do
  let ms ← Json.fields? ["resources"] j
  return { resources := ← Members.read ms "resources" (Json.listOf ResourceDefinition.ofJson?) [] }

/-- The written configuration. -/
def toJson (c : ResourceConfig) : Json :=
  .object [("resources", .array (c.resources.map ResourceDefinition.toJson))]

end ResourceConfig

end AppGateway
