import AppGateway.Proofs.Gateway.Visible
import AppGateway.Proofs.Gateway.Written
import AppGateway.Proofs.Resource.Parts
import AppGateway.Proofs.Sample

/-!
# What an update keeps of others

An update reads a release, shows it as an application, and writes what the updater makes of this over the release.
Everything that the gateway does not interpret is carried over, and everything that it does is written anew, from the
application, the request and the type only.

* (program) `update_replaces`: what is sent when the release is there and the updated application is admitted;
* (content) `sentOver_carries`: what is in it;
* `updates_keep_foreign_content`: the two together.
-/

namespace AppGateway

namespace ResourceDefinition

variable (d : ResourceDefinition) {ns name : String}

/-- What is sent for an application carries over what a record holds and the gateway does not interpret, and has the rest
from the application, the request and the type. -/
structure Carries (ns name : String) (app : Application) (record sent : Record) : Prop where
  spec : Json.AgreeBut ["chart", "values"] ["spec"] record.toJson sent.toJson
  template : Json.AgreeBut ["spec"] ["spec", "chart"] record.toJson sent.toJson
  chart : Json.AgreeBut Chart.known ["spec", "chart", "spec"] record.toJson sent.toJson
  labels : ∀ key, sent.metadata.labels.bind (·.get? key) =
    (d.release.labels.get? key).or (record.metadata.labels.bind (·.get? key))
  annotations : sent.metadata.annotations = record.metadata.annotations
  finalizers : sent.metadata.finalizers = record.metadata.finalizers
  ownerReferences : sent.metadata.ownerReferences = record.metadata.ownerReferences
  name : sent.metadata.name = some (d.names.toBacking name)
  ns : sent.metadata.ns = some ns
  values : sent.toJson.at? ["spec", "values"] = app.spec
  version : sent.toJson.at? ["spec", "chart", "spec", "version"] =
    if app.appVersion.isEmpty then none else some (.string app.appVersion)
  chartName : sent.toJson.at? ["spec", "chart", "spec", "chart"] = some (.string d.release.chart.name)
  strategy : sent.toJson.at? ["spec", "chart", "spec", "reconcileStrategy"] = some (.string reconcileByRevision)
  source : sent.toJson.at? ["spec", "chart", "spec", "sourceRef"] =
    some (.object [("kind", .string d.release.chart.source.kind), ("name", .string d.release.chart.source.name),
      ("namespace", .string d.release.chart.source.ns)])

/-- An update that gets a record as the release of its application sends another record in its place. -/
def Replaces (ns name : String) (updater : Option Application → Except Failure Application) (mayCreate : Bool)
    (record sent : Record) : Prop :=
  ∃ next after, (d.update (some ns) name updater mayCreate).run = .call (.get ns (d.names.toBacking name)) next ∧
    next (.ok record) = .call (.replace ns (d.names.toBacking name) sent) after

/-- The chart template of what is written for an application over a release with a template. -/
def templateOver (app : Application) (t : ChartTemplate) : ChartTemplate where
  spec := {
    chart := some d.release.chart.name
    version := if app.appVersion.isEmpty then none else some app.appVersion
    reconcileStrategy := some reconcileByRevision
    source := some {
      kind := some d.release.chart.source.kind
      name := some d.release.chart.source.name
      ns := some d.release.chart.source.ns }
    extra := t.spec.extra }
  extra := t.extra

private theorem toRelease_chart (app : Application) {release : Release} {t : ChartTemplate}
    (h : release.spec.chart = some t) : (d.toRelease app (some release)).spec.chart = some (d.templateOver app t) := by
  simp only [toRelease, Option.bind_some, h]
  rfl

/-- The record that an update sends for an admitted application, over the release that it has found. -/
def sentOver (ns name : String) (app : Application) (release : Release) : Record :=
  (d.toRelease (app.addressedAs name ns) (some release)).toStored

/-- An update that finds a release of its type sends what becomes of the updated application in its place. -/
theorem update_replaces (hns : ns ≠ "") {record : Record} {release : Release}
    (hread : Release.ofRecord record = .ok release) (hscope : d.inScope release = true)
    {updater : Option Application → Except Failure Application} {app admitted : Application}
    (happ : updater (some (d.toApplication release)) = .ok app)
    (hadmitted : app.addressed (some name) ns = .ok admitted) (mayCreate : Bool) :
    d.Replaces ns name updater mayCreate record (d.sentOver ns name app release) := by
  have hfound : d.fetchedForUpdate name mayCreate (.ok record) = .ok (some release) := by
    have hfetched : d.fetched .update name (.ok record) = .ok release := by
      show d.readInScope .update name record = _
      rw [readInScope, readRelease, hread, Except.mapError_ok, Except.ok_bind, if_pos hscope]
    rw [fetchedForUpdate, hfetched]
  have hfit : app.addressedName? (some name) ns = some name := by
    cases hname : app.addressedName? (some name) ns with
    | none =>
      obtain ⟨message, hm⟩ := Application.addressed_of_none hname
      rw [hm] at hadmitted
      cases hadmitted
    | some n => rw [addressedName?_eq hname]
  have hsettled : (d.toRelease (app.addressedAs name ns) (some release)).settled.Rereads :=
    d.toRelease_settled_rereads _ fun r hr => Option.some.inj hr ▸ Release.rereads_of_ofRecord hread
  have hupdated : d.updatedRecord ns name updater (some release) = .ok (d.sentOver ns name app release) := by
    rw [updatedRecord, Option.map_some, happ, Except.ok_bind, d.writtenRecord_of_some hfit,
      writeRelease_of_settled hsettled]
    rfl
  have hafter : d.afterFetch ns name updater mayCreate (.ok record) =
      d.storeRecord ns name (some release) (d.sentOver ns name app release) := by
    rw [afterFetch, hfound]
    simp only [hupdated]
  exact ⟨_, _, d.update_run hns name updater mayCreate, hafter⟩

/-- What is sent holds what the record holds and is not interpreted. -/
theorem sentOver_carries {record : Record} {release : Release} (hread : Release.ofRecord record = .ok release)
    (hscope : d.inScope release = true) (app : Application) :
    d.Carries ns name app record (d.sentOver ns name app release) := by
  obtain ⟨c, source, hchart, -, hnamed, -⟩ := inScope_iff.mp hscope
  obtain ⟨t, ht, rfl⟩ := Option.map_eq_some_iff.mp hchart
  obtain ⟨spec, template, chart, hstands⟩ := Release.standsIn_of_ofRecord hread ht (by simp [hnamed])
  obtain ⟨hlabels, hannotations, hfinalizers, howners⟩ :=
    ObjectMeta.kept_of_ofJson?_toJson (Release.metadata_of_ofRecord hread)
  let written := d.toRelease (app.addressedAs name ns) (some release)
  have hwritten : written.spec.chart = some (d.templateOver app t) := d.toRelease_chart _ ht
  have hrereads : written.settled.Rereads :=
    d.toRelease_settled_rereads _ fun r hr => Option.some.inj hr ▸ Release.rereads_of_ofRecord hread
  have htemplate : (d.templateOver app t).Rereads := hrereads.spec.chart _ hwritten
  have hspec : written.spec.extra.Avoids ["chart", "values"] := hrereads.spec.extra
  have hsent : (d.sentOver ns name app release).toJson = written.toJson := Release.toStored_toJson written
  obtain ⟨hatSpec, hatTemplate, hatChart⟩ := written.at?_toJson hwritten
  obtain ⟨hchartName, hversion, hstrategy, hsource⟩ := Chart.get?_members htemplate.spec
  rw [← hsent] at hatSpec hatTemplate hatChart
  exact {
    spec := ⟨_, _, hstands.at_spec, hatSpec, by rw [ReleaseSpec.without_members hspec, ← hstands.extra]; rfl⟩
    template := ⟨_, _, hstands.at_template, hatTemplate, by
      rw [ChartTemplate.without_members htemplate, ← hstands.templateExtra]; rfl⟩
    chart := ⟨_, _, hstands.at_chart, hatChart, by
      rw [Chart.without_members htemplate.spec, ← hstands.chart.extra]; rfl⟩
    labels := fun key => by rw [← hlabels]; exact d.label_toRelease _ _ key
    annotations := hannotations
    finalizers := hfinalizers
    ownerReferences := howners
    name := rfl
    ns := rfl
    values := (Json.at?_snoc hatSpec "values").trans (Release.get?_values hspec)
    version := by
      refine (Json.at?_snoc hatChart "version").trans (hversion.trans ?_)
      rw [templateOver]
      split <;> rfl
    chartName := (Json.at?_snoc hatChart "chart").trans hchartName
    strategy := (Json.at?_snoc hatChart "reconcileStrategy").trans hstrategy
    source := (Json.at?_snoc hatChart "sourceRef").trans hsource }

/-- Whatever the updater makes of the application that is shown, if it is admitted, then the update sends a replacement
that carries over all that the gateway does not interpret, and in which the rest depends on nothing that was stored. -/
theorem updates_keep_foreign_content (hns : ns ≠ "") {record : Record} {release : Release}
    (hread : Release.ofRecord record = .ok release) (hscope : d.inScope release = true)
    {updater : Option Application → Except Failure Application} {app admitted : Application}
    (happ : updater (some (d.toApplication release)) = .ok app)
    (hadmitted : app.addressed (some name) ns = .ok admitted) (mayCreate : Bool) :
    ∃ sent, d.Replaces ns name updater mayCreate record sent ∧ d.Carries ns name app record sent :=
  ⟨_, d.update_replaces hns hread hscope happ hadmitted mayCreate, d.sentOver_carries hread hscope app⟩

/-- A record with labels, a finalizer and settings of other writers. -/
def sharedRecord : Record where
  metadata := {
    name := some "web-shop"
    labels := some (.ofList [("app", "other"), ("team", "red")])
    finalizers := some ["backup"] }
  data := [("spec", .object [
    ("chart", .object [
      ("metadata", .object [("labels", .object [])]),
      ("spec", .object [
        ("chart", .string "web"),
        ("interval", .string "5m"),
        ("sourceRef", .object [
          ("kind", .string "HelmRepository"), ("name", .string "charts"), ("namespace", .string "flux")])])]),
    ("suspend", .bool true)])]

/-- An application is upgraded over a record with the labels, the finalizer and the settings of others. -/
theorem upgrade_keeps_shared_record :
    ∃ sent, labelledType.Replaces "tenant" "shop" (fun _ => .ok sampleApp) false sharedRecord sent ∧
      labelledType.Carries "tenant" "shop" sampleApp sharedRecord sent := by
  have hscope : (Release.ofRecord sharedRecord).toOption.any labelledType.inScope = true := by decide +kernel
  cases hread : Release.ofRecord sharedRecord with
  | error fault =>
    rw [hread] at hscope
    cases hscope
  | ok release =>
    rw [hread] at hscope
    have hfit : sampleApp.addressedName? (some "shop") "tenant" = some "shop" := by decide
    exact labelledType.updates_keep_foreign_content (by decide) hread hscope rfl (Application.addressed_of_some hfit)
      false

end ResourceDefinition

end AppGateway
