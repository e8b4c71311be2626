import AppGateway.Config.Definition
import AppGateway.Identity
import AppGateway.Resource.Application
import AppGateway.Resource.Release

/-!
# Applications and the releases that back them

`ResourceDefinition.toApplication` shows a release as an application; `ResourceDefinition.toRelease` writes an
application as a release, over the release that is stored already if there is one.  `ResourceDefinition.inScope`
tells whether a release is of the type at all.
-/

namespace AppGateway

namespace ResourceDefinition

/-- The naming of the releases of a type. -/
def names (d : ResourceDefinition) : NameScheme := ⟨d.release.namePrefix⟩

/-- Whether a release installs the chart of this type from its source; every part has to be there and equal. -/
def inScope (d : ResourceDefinition) (release : Release) : Bool :=
  match release.chart? with
  | none => false
  | some chart =>
    match chart.source with
    | none => false
    | some source =>
      let expected := d.release.chart
      chart.chart == some expected.name && source.kind == some expected.source.kind
        && source.name == some expected.source.name && source.ns == some expected.source.ns

/-- Whether a condition of a release is shown on its application. -/
def showsCondition (c : Condition) : Bool :=
  c.type == Condition.ready || c.type == Condition.released

/-- The application that shows a release. -/
def toApplication (d : ResourceDefinition) (release : Release) : Application where
  apiVersion := groupVersion
  kind := d.application.kind
  metadata := {
    name := some (d.names.toSynthetic release.name)
    ns := release.metadata.ns
    creationTimestamp := release.metadata.creationTimestamp
    deletionTimestamp := release.metadata.deletionTimestamp
    resourceVersion := release.metadata.resourceVersion }
  spec := release.spec.values
  appVersion := ((release.chart?.bind (·.version)).getD "")
  status := {
    version := (release.status.map (·.lastAttemptedRevision)).getD ""
    conditions := ((release.status.map (·.conditions)).getD []).filter showsCondition }

/-- The release that backs an application.  Of the release stored before, labels not configured, annotations,
finalizers, owners and uninterpreted members of the spec are kept, and its resource version is used when the
application has none. -/
def toRelease (d : ResourceDefinition) (app : Application) (stored : Option Release) : Release :=
  let labels := ((stored.bind (·.metadata.labels)).getD .empty).union d.release.labels
  let storedTemplate := stored.bind (·.spec.chart)
  let source := d.release.chart.source
  { apiVersion := releaseApiVersion
    kind := releaseKind
    metadata := {
      name := some (d.names.toBacking app.name)
      ns := app.metadata.ns
      labels := if labels.isEmpty then none else some labels
      annotations := stored.bind (·.metadata.annotations)
      finalizers := stored.bind (·.metadata.finalizers)
      ownerReferences := stored.bind (·.metadata.ownerReferences)
      resourceVersion := app.metadata.resourceVersion.or (stored.bind (·.metadata.resourceVersion)) }
    spec := {
      chart := some {
        spec := {
          chart := some d.release.chart.name
          version := if app.appVersion.isEmpty then none else some app.appVersion
          reconcileStrategy := some reconcileByRevision
          source := some { kind := some source.kind, name := some source.name, ns := some source.ns }
          extra := (storedTemplate.map (·.spec.extra)).getD [] }
        extra := (storedTemplate.map (·.extra)).getD [] }
      values := app.spec
      extra := (stored.map (·.spec.extra)).getD [] }
    status := none }

/-- The application that a record shows; none for a record that is unreadable or of another type. -/
def shown? (d : ResourceDefinition) (record : Record) : Option Application :=
  match Release.ofRecord record with
  | .ok release => if d.inScope release then some (d.toApplication release) else none
  | .error _ => none

end ResourceDefinition

end AppGateway
