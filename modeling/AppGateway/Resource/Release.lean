import AppGateway.Fault
import AppGateway.Resource.Condition
import AppGateway.Resource.Record

/-!
# Releases

The resource that backs applications.  Only the fields that are read or written here have a type; other members of
the spec, of its chart template and of the chart itself are kept as they are, so that an update does not drop what
others have put there.

* `Release.ofRecord` reads a record as a release.
* `Release.toRecord` writes a release as a record.
-/

namespace AppGateway

/-- The group, version, kind and plural of releases. -/
def releaseGroup : String := "helm.toolkit.fluxcd.io"

@[inherit_doc releaseGroup]
def releaseVersion : String := "v2"

/-- Group and version of releases in one. -/
def releaseApiVersion : String := releaseGroup ++ "/" ++ releaseVersion

@[inherit_doc releaseGroup]
def releaseKind : String := "HelmRelease"

@[inherit_doc releaseGroup]
def releasePlural : String := "helmreleases"

/-- The strategy by which charts of written releases are fetched again. -/
def reconcileByRevision : String := "Revision"

/-- Where a chart comes from. -/
structure ChartSource where
  kind : Option String := none
  name : Option String := none
  ns : Option String := none
deriving DecidableEq, Repr, Inhabited

namespace ChartSource

/-- Reads a chart source. -/
def ofJson? (j : Json) : Option ChartSource := do
  let ms ← Json.fields? ["kind", "name", "namespace"] j
  return {
    kind := ← Members.nullable ms "kind" Json.string?
    name := ← Members.nullable ms "name" Json.string?
    ns := ← Members.nullable ms "namespace" Json.string? }

/-- The written chart source. -/
def toJson (s : ChartSource) : Json :=
  .object (
    Members.optional "kind" (s.kind.map .string)
    ++ Members.optional "name" (s.name.map .string)
    ++ Members.optional "namespace" (s.ns.map .string))

end ChartSource

/-- The chart that a release installs. -/
structure Chart where
  chart : Option String := none
  version : Option String := none
  reconcileStrategy : Option String := none
  source : Option ChartSource := none
  extra : Members := []
deriving Repr, Inhabited, BEq

namespace Chart

/-- The members of a chart that have a type. -/
def known : List String := ["chart", "version", "reconcileStrategy", "sourceRef"]

/-- Reads a chart. -/
def ofJson? (j : Json) : Option Chart := do
  let ms ← Json.strictMembers? known j
  return {
    chart := ← Members.nullable ms "chart" Json.string?
    version := ← Members.nullable ms "version" Json.string?
    reconcileStrategy := ← Members.nullable ms "reconcileStrategy" Json.string?
    source := ← Members.nullable ms "sourceRef" ChartSource.ofJson?
    extra := Members.without ms known }

/-- The written chart. -/
def toJson (c : Chart) : Json :=
  .object (
    Members.optional "chart" (c.chart.map .string)
    ++ Members.optional "version" (c.version.map .string)
    ++ Members.optional "reconcileStrategy" (c.reconcileStrategy.map .string)
    ++ Members.optional "sourceRef" (c.source.map ChartSource.toJson)
    ++ c.extra)

end Chart

/-- The template around the chart. -/
structure ChartTemplate where
  spec : Chart := {}
  extra : Members := []
deriving Repr, Inhabited, BEq

namespace ChartTemplate

/-- Reads a chart template. -/
def ofJson? (j : Json) : Option ChartTemplate := do
  let ms ← Json.strictMembers? ["spec"] j
  return { spec := ← Members.read ms "spec" Chart.ofJson? {}, extra := Members.without ms ["spec"] }

/-- The written chart template. -/
def toJson (t : ChartTemplate) : Json :=
  .object (("spec", t.spec.toJson) :: t.extra)

end ChartTemplate

/-- The desired state of a release. -/
structure ReleaseSpec where
  chart : Option ChartTemplate := none
  values : Option Json := none
  extra : Members := []
deriving Repr, Inhabited, BEq

namespace ReleaseSpec

/-- Reads the desired state. -/
def ofJson? (j : Json) : Option ReleaseSpec := do
  let ms ← Json.strictMembers? ["chart", "values"] j
  return {
    chart := ← Members.nullable ms "chart" ChartTemplate.ofJson?
    values := ← Members.nullable ms "values" Json.any
    extra := Members.without ms ["chart", "values"] }

/-- The written desired state. -/
def toJson (s : ReleaseSpec) : Json :=
  .object (
    Members.optional "chart" (s.chart.map ChartTemplate.toJson)
    ++ Members.optional "values" s.values
    ++ s.extra)

end ReleaseSpec

/-- The observed state of a release. -/
structure ReleaseStatus where
  lastAttemptedRevision : String := ""
  conditions : List Condition := []
deriving DecidableEq, Repr, Inhabited

namespace ReleaseStatus

/-- Reads an array of conditions, leaving out the items that are no conditions. -/
def conditions? (j : Json) : Option (List Condition) :=
  j.array?.map fun items => items.filterMap Condition.ofJson?

/-- Reads the observed state. -/
def ofJson? (j : Json) : Option ReleaseStatus := do
  let ms ← Json.fields? ["lastAttemptedRevision", "conditions"] j
  return {
    lastAttemptedRevision := ← Members.read ms "lastAttemptedRevision" Json.string? ""
    conditions := ← Members.read ms "conditions" conditions? [] }

/-- The written observed state. -/
def toJson (s : ReleaseStatus) : Json :=
  .object [("lastAttemptedRevision", .string s.lastAttemptedRevision),
    ("conditions", .array (s.conditions.map Condition.toJson))]

end ReleaseStatus

/-- A release. -/
structure Release where
  apiVersion : String := ""
  kind : String := ""
  metadata : ObjectMeta := {}
  spec : ReleaseSpec := {}
  status : Option ReleaseStatus := none
deriving Repr, Inhabited, BEq

namespace Release

/-- The name of a release, empty when it has none. -/
def name (r : Release) : String := r.metadata.name.getD ""

/-- The chart of a release. -/
def chart? (r : Release) : Option Chart := r.spec.chart.map (·.spec)

/-- Reads a release. -/
def ofJson? (j : Json) : Option Release := do
  let ms ← Json.strictMembers? ["apiVersion", "kind", "metadata", "spec", "status"] j
  return {
    apiVersion := ← Members.read ms "apiVersion" Json.string? ""
    kind := ← Members.read ms "kind" Json.string? ""
    metadata := ← Members.read ms "metadata" ObjectMeta.ofJson? {}
    spec := ← Members.read ms "spec" ReleaseSpec.ofJson? {}
    status := ← Members.nullable ms "status" ReleaseStatus.ofJson? }

/-- The written release. -/
def toJson (r : Release) : Json :=
  .object (
    [("apiVersion", .string r.apiVersion), ("kind", .string r.kind), ("metadata", r.metadata.toJson),
      ("spec", r.spec.toJson)]
    ++ Members.optional "status" (r.status.map ReleaseStatus.toJson))

/-- Reads a record as a release. -/
def ofRecord (record : Record) : Except Fault Release :=
  match ofJson? record.toJson with
  | some release => .ok release
  | none => .error (.serialization (some releaseKind)
      (record.name ++ " is not a valid " ++ releaseKind ++ ": " ++ Fault.unexpectedStructure))

/-- Writes a release as a record. -/
def toRecord (release : Release) : Except Fault Record :=
  match Record.ofJson? release.toJson with
  | some record => .ok record
  | none => .error (.serialization (some releaseKind) Fault.unexpectedStructure)

end Release

end AppGateway
