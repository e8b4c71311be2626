import AppGateway.Proofs.Gateway.Program
import AppGateway.Proofs.Mapping
import AppGateway.Proofs.Meta.Labels
import AppGateway.Proofs.Resource.Decoded
import AppGateway.Proofs.Sample

/-!
# What is written is seen

The release written for an application is one that the gateway shows, and shows as this application:
`ResourceDefinition.written_is_seen`.  Nothing of the release found before can stand in the way, because it has been
read of a record and so is read back (`Release.rereads_of_ofRecord`).

* (mapping) `toRelease_presents`: the two directions of the mapping agree, with the name taken from the prefix again.
-/

namespace AppGateway

namespace ResourceDefinition

variable (d : ResourceDefinition)

/-- A release of this type that shows an application and has not been acted on yet. -/
structure Presents (app : Application) (r : Release) : Prop where
  inScope : d.inScope r = true
  name : r.name = d.release.namePrefix ++ app.name
  labels : ∀ key value, d.release.labels.get? key = some value →
    r.metadata.labels.bind (·.get? key) = some value
  status : r.status = none
  shown_name : (d.toApplication r).name = app.name
  shown_ns : (d.toApplication r).metadata.ns = app.metadata.ns
  shown_version : (d.toApplication r).appVersion = app.appVersion
  shown_spec : (d.toApplication r).spec = app.spec

/-- An empty version is left out of the release and shown as empty again. -/
private theorem appVersion_toRelease (app : Application) (stored : Option Release) :
    (d.toApplication (d.toRelease app stored)).appVersion = app.appVersion := by
  show (if app.appVersion.isEmpty then none else some app.appVersion).getD "" = app.appVersion
  split
  · rename_i h
    exact (String.isEmpty_iff.mp h).symm
  · rfl

/-- What is made of an application presents it, whatever was stored before. -/
theorem toRelease_presents (app : Application) (stored : Option Release) :
    d.Presents app (d.toRelease app stored) where
  inScope := d.inScope_toRelease app stored
  name := rfl
  labels key value h := by rw [d.label_toRelease, h, Option.some_or]
  status := rfl
  shown_name := d.names.toSynthetic_toBacking app.name
  shown_ns := rfl
  shown_version := d.appVersion_toRelease app stored
  shown_spec := rfl

/-- The release written for an application that was read from JSON, over none or over any release that was read of a
record, can be stored, and what is read of the stored record presents the application. -/
theorem written_is_seen {j : Json} {app : Application} (happ : Application.ofJson? j = some app)
    {stored : Option Release} (hstored : ∀ r, stored = some r → ∃ record, Release.ofRecord record = .ok r) :
    ∃ record r, (d.toRelease app stored).toRecord = .ok record ∧ Release.ofRecord record = .ok r ∧
      d.Presents app r := by
  have hrereads : (d.toRelease app stored).Rereads := by
    refine d.toRelease_rereads app (Application.spec_ne_null happ) fun r hr => ?_
    obtain ⟨record, hrecord⟩ := hstored r hr
    exact Release.rereads_of_ofRecord hrecord
  exact ⟨_, _, Release.toRecord_eq hrereads, Release.ofRecord_toStored hrereads, d.toRelease_presents app stored⟩

/-- A type whose releases are labelled. -/
def labelledType : ResourceDefinition :=
  { sampleType with release := { sampleType.release with labels := .ofList [("app", "web"), ("tier", "front")] } }

/-- A record with other labels, another chart and members of its own. -/
def relabelledRecord : Record where
  metadata := { name := some "web-web-shop", labels := some (.ofList [("app", "other"), ("team", "red")]) }
  data := [("spec", .object [
    ("chart", .object [("spec", .object [("chart", .string "other"), ("interval", .string "5m")])]),
    ("suspend", .bool true)])]

/-- An application whose name begins with the prefix, without a version and without a spec. -/
def prefixedJson : Json :=
  .object [("metadata", .object [("name", .string "web-shop"), ("namespace", .string "tenant")])]

/-- An application with a prefix in its name is written over a release that others have relabelled, and seen as such. -/
theorem seen_over_relabelled_release :
    ∃ app stored record r, Application.ofJson? prefixedJson = some app ∧
      Release.ofRecord relabelledRecord = .ok stored ∧
      (labelledType.toRelease app (some stored)).toRecord = .ok record ∧ Release.ofRecord record = .ok r ∧
      labelledType.Presents app r := by
  have happ : Application.ofJson? prefixedJson =
      some { metadata := { name := some "web-shop", ns := some "tenant" } } := rfl
  have hread : (Release.ofRecord relabelledRecord).toOption.isSome = true := by decide +kernel
  cases hstored : Release.ofRecord relabelledRecord with
  | ok stored =>
    have hdecoded : ∀ r, some stored = some r → ∃ record, Release.ofRecord record = .ok r := by
      rintro r ⟨⟩
      exact ⟨relabelledRecord, hstored⟩
    obtain ⟨record, r, hwritten⟩ := labelledType.written_is_seen happ hdecoded
    exact ⟨_, stored, record, r, happ, rfl, hwritten⟩
  | error fault =>
    rw [hstored] at hread
    cases hread

end ResourceDefinition

end AppGateway
