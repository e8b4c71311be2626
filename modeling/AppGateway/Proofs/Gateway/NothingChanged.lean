import AppGateway.Proofs.Gateway.ForeignContent
import AppGateway.Proofs.Sample

/-!
# Updates that change nothing

An update whose updater gives back the application that it was shown sends the desired state that is stored, if the
chart is one as the gateway writes it, but for one thing: the reference to the source of the chart is written anew.  What
another writer has put into this reference is lost.

* (source) `ChartSource.alike_iff`: a reference is written as it was just when it holds nothing but its parts;
* (desired state) `Ordinary.spec_alike_iff`: all the rest is sent as it is stored;
* `unchanged_spec_iff`: when the desired state that is sent is the one that is stored;
* `source_of_chart_is_cut`: a member of the reference that an update drops.
-/

namespace AppGateway

/-- A chart source that was read with all its parts is written as it was read, but for the order of members, just when
it is an object and these are all its members. -/
theorem ChartSource.alike_iff {j : Json} {kind name ns : String}
    (h : ofJson? j = some { kind := some kind, name := some name, ns := some ns }) :
    Json.Alike j (.object [("kind", .string kind), ("name", .string name), ("namespace", .string ns)]) ↔
      ∃ ms : Members, j = .object ms ∧ ∀ m ∈ ms, m.1 ∈ ["kind", "name", "namespace"] := by
  constructor
  · intro halike
    obtain ⟨ms, rfl⟩ := halike.object_left
    refine ⟨ms, rfl, fun m hm => ?_⟩
    have hsome := (halike.members m.1).1.symm.trans (Members.isSome_get?_of_mem hm)
    by_contra hother
    simp only [List.mem_cons, List.not_mem_nil, or_false, not_or] at hother
    simp [Json.member?, Members.get?, hother] at hsome
  · rintro ⟨ms, rfl, hall⟩
    obtain ⟨hkind, hname, hns⟩ := of_ofJson? h
    have hnone : Members.without ms ["kind", "name", "namespace"] = [] := by
      rw [Members.without, List.filter_eq_nil_iff]
      intro m hm
      rw [List.contains_iff_mem.mpr (hall m hm)]
      decide
    refine Json.Alike.of_members hnone fun key hkey => ?_
    simp only [List.mem_cons, List.not_mem_nil, or_false] at hkey
    rcases hkey with rfl | rfl | rfl
    · exact .of_eq (hkind kind rfl)
    · exact .of_eq (hname name rfl)
    · exact .of_eq (hns ns rfl)

namespace ResourceDefinition

variable (d : ResourceDefinition) {ns name : String}

/-- A record in the place of an application of this type, with a chart that has the strategy and a version as the gateway
writes them, and with values that are no null. -/
structure Ordinary (ns name : String) (record : Record) (release : Release) : Prop where
  read : Release.ofRecord record = .ok release
  inScope : d.inScope release = true
  name : record.metadata.name = some (d.names.toBacking name)
  ns : record.metadata.ns.getD "" = "" ∨ record.metadata.ns.getD "" = ns
  strategy : record.toJson.at? ["spec", "chart", "spec", "reconcileStrategy"] = some (.string reconcileByRevision)
  version : ∃ v, v ≠ "" ∧ record.toJson.at? ["spec", "chart", "spec", "version"] = some (.string v)
  values : record.toJson.at? ["spec", "values"] ≠ some .null

variable {d} {record : Record} {release : Release}

/-- The application that such a record shows agrees with the request for it. -/
private theorem Ordinary.addressed (h : d.Ordinary ns name record release) (hname : name ≠ "") :
    (d.toApplication release).addressed (some name) ns = .ok ((d.toApplication release).addressedAs name ns) := by
  obtain ⟨hrecordName, hrecordNs, -⟩ :=
    ObjectMeta.text_of_ofJson?_toJson (Release.metadata_of_ofRecord h.read)
  have happName : (d.toApplication release).name = name := by
    show d.names.toSynthetic (release.metadata.name.getD "") = name
    rw [hrecordName, h.name, Option.getD_some, NameScheme.toSynthetic_toBacking]
  have happNs : (d.toApplication release).metadata.ns = record.metadata.ns := hrecordNs
  have hns := h.ns
  refine Application.addressed_of_some ?_
  rw [Application.addressedName?, happName, happNs, if_pos]
  · rfl
  · exact ⟨.inr rfl, hname, hns⟩

/-- What is sent for the application that such a record shows has the desired state of the record, just when it has the
source of its chart. -/
theorem Ordinary.spec_alike_iff (h : d.Ordinary ns name record release) {sent : Record}
    (hsent : d.Carries ns name (d.toApplication release) record sent) :
    Json.AlikeAt ["spec"] record.toJson sent.toJson ↔
      Json.AlikeAt ["spec", "chart", "spec", "sourceRef"] record.toJson sent.toJson := by
  obtain ⟨c, source, hchart, -, hnamed, -⟩ := inScope_iff.mp h.inScope
  obtain ⟨t, ht, rfl⟩ := Option.map_eq_some_iff.mp hchart
  obtain ⟨spec, template, chart, hstands⟩ := Release.standsIn_of_ofRecord h.read ht (by simp [hnamed])
  have hvalues : Json.AlikeAt ["spec", "values"] record.toJson sent.toJson := by
    have hfound : record.toJson.at? ["spec", "values"] = spec.get? "values" := Json.at?_snoc hstands.at_spec "values"
    have hne := h.values
    rw [hfound] at hne
    have hkept : (d.toApplication release).spec = spec.get? "values" :=
      hstands.values.trans (Members.dropNull_of_ne hne)
    exact .of_eq (hfound.trans (hkept.symm.trans hsent.values.symm))
  have hname : Json.AlikeAt ["spec", "chart", "spec", "chart"] record.toJson sent.toJson := by
    have hfound := (Json.at?_snoc hstands.at_chart "chart").trans (hstands.chart.chart _ hnamed)
    exact .of_eq (hfound.trans hsent.chartName.symm)
  have hversion : Json.AlikeAt ["spec", "chart", "spec", "version"] record.toJson sent.toJson := by
    obtain ⟨v, hv, hfound⟩ := h.version
    have hshown : (d.toApplication release).appVersion = v := by
      show (release.chart?.bind (·.version)).getD "" = v
      rw [hchart, Option.bind_some,
        hstands.chart.version v ((Json.at?_snoc hstands.at_chart "version").symm.trans hfound), Option.getD_some]
    have hwritten := hsent.version
    rw [hshown, if_neg (by simpa using hv)] at hwritten
    exact .of_eq (hfound.trans hwritten.symm)
  have hstrategy : Json.AlikeAt ["spec", "chart", "spec", "reconcileStrategy"] record.toJson sent.toJson :=
    .of_eq (h.strategy.trans hsent.strategy.symm)
  -- All that is not interpreted is carried over, on each of the three levels.
  have hspec := hsent.spec.alikeAt_iff
  have htemplate := hsent.template.alikeAt_iff
  have hchart := hsent.chart.alikeAt_iff
  simp only [Chart.known, List.forall_mem_cons, List.not_mem_nil, false_imp_iff, implies_true, and_true,
    List.cons_append, List.nil_append] at hspec htemplate hchart
  rw [hspec, htemplate, hchart]
  simp only [hvalues, hname, hversion, hstrategy, true_and, and_true]

/-- The reference to the source of the chart, where it stands in a record of this type. -/
private theorem source_of_inScope (hread : Release.ofRecord record = .ok release) (hscope : d.inScope release = true) :
    ∃ j, record.toJson.at? ["spec", "chart", "spec", "sourceRef"] = some j ∧ ChartSource.ofJson? j = some {
      kind := some d.release.chart.source.kind
      name := some d.release.chart.source.name
      ns := some d.release.chart.source.ns } := by
  obtain ⟨c, source, hchart, hsource, hnamed, hkind, hname, hns⟩ := inScope_iff.mp hscope
  obtain ⟨t, ht, rfl⟩ := Option.map_eq_some_iff.mp hchart
  obtain ⟨spec, template, chart, hstands⟩ := Release.standsIn_of_ofRecord hread ht (by simp [hnamed])
  obtain ⟨j, hfound, hj⟩ := hstands.chart.source source hsource
  refine ⟨j, (Json.at?_snoc hstands.at_chart "sourceRef").trans hfound, ?_⟩
  rw [hj, ← hkind, ← hname, ← hns]

/-- What is sent for the application that such a record shows has the desired state of the record, just when the reference
holds nothing but its parts. -/
theorem Ordinary.unchanged_iff (h : d.Ordinary ns name record release) {sent : Record}
    (hsent : d.Carries ns name (d.toApplication release) record sent) :
    Json.AlikeAt ["spec"] record.toJson sent.toJson ↔
      ∃ ms : Members, record.toJson.at? ["spec", "chart", "spec", "sourceRef"] = some (.object ms) ∧
        ∀ m ∈ ms, m.1 ∈ ["kind", "name", "namespace"] := by
  obtain ⟨j, hfound, hj⟩ := source_of_inScope h.read h.inScope
  rw [h.spec_alike_iff hsent, Json.AlikeAt, hfound, hsent.source, Json.bothAlike_some_iff, ChartSource.alike_iff hj]
  simp only [Option.some.injEq]

private theorem Ordinary.replaces (h : d.Ordinary ns name record release) (hns : ns ≠ "") (hname : name ≠ "")
    {updater : Option Application → Except Failure Application} (hupdater : ∀ app, updater (some app) = .ok app)
    (mayCreate : Bool) :
    ∃ sent, d.Replaces ns name updater mayCreate record sent ∧
      d.Carries ns name (d.toApplication release) record sent :=
  ⟨_, d.update_replaces hns h.read h.inScope (hupdater _) (h.addressed hname) mayCreate,
    d.sentOver_carries h.read h.inScope _⟩

/-- An update that changes nothing sends the desired state that is stored, but for the order of members, just when the
reference to the source of the chart holds nothing but its kind, its name and its namespace. -/
theorem unchanged_spec_iff (hns : ns ≠ "") (hname : name ≠ "") (h : d.Ordinary ns name record release)
    {updater : Option Application → Except Failure Application} (hupdater : ∀ app, updater (some app) = .ok app)
    (mayCreate : Bool) :
    ∃ sent, d.Replaces ns name updater mayCreate record sent ∧
      (Json.AlikeAt ["spec"] record.toJson sent.toJson ↔
        ∃ ms : Members, record.toJson.at? ["spec", "chart", "spec", "sourceRef"] = some (.object ms) ∧
          ∀ m ∈ ms, m.1 ∈ ["kind", "name", "namespace"]) := by
  obtain ⟨sent, hreplaces, hsent⟩ := h.replaces hns hname hupdater mayCreate
  exact ⟨sent, hreplaces, h.unchanged_iff hsent⟩

/-- A record of a web, with more members in the reference to the source of its chart. -/
def referringRecord (more : Members) : Record where
  metadata := { name := some "web-shop", ns := some "tenant" }
  data := [("spec", .object [
    ("chart", .object [("spec", .object [
      ("chart", .string "web"),
      ("interval", .string "5m"),
      ("reconcileStrategy", .string "Revision"),
      ("sourceRef", .object ([("kind", .string "HelmRepository"), ("name", .string "charts"),
        ("namespace", .string "flux")] ++ more)),
      ("version", .string "1")])]),
    ("suspend", .bool true)])]

/-- Gives back what it is given. -/
def unchanged (current : Option Application) : Except Failure Application := .ok (current.getD {})

private theorem ordinary_referringRecord {more : Members}
    (hread : (Release.ofRecord (referringRecord more)).toOption.any sampleType.inScope = true) :
    ∃ release, sampleType.Ordinary "tenant" "shop" (referringRecord more) release := by
  cases hrelease : Release.ofRecord (referringRecord more) with
  | error fault =>
    rw [hrelease] at hread
    cases hread
  | ok release =>
    rw [hrelease] at hread
    refine ⟨release, hrelease, hread, rfl, .inr rfl, rfl, ⟨"1", by decide, rfl⟩, ?_⟩
    have hnone : (referringRecord more).toJson.at? ["spec", "values"] = none := rfl
    rw [hnone]
    simp

/-- An update that changes nothing keeps a release whose chart reference has known members only. -/
theorem plain_reference_is_kept :
    ∃ sent, sampleType.Replaces "tenant" "shop" unchanged false (referringRecord []) sent ∧
      Json.AlikeAt ["spec"] (referringRecord []).toJson sent.toJson := by
  have hread : (Release.ofRecord (referringRecord [])).toOption.any sampleType.inScope = true := by decide +kernel
  obtain ⟨release, h⟩ := ordinary_referringRecord hread
  have hidentity : ∀ app, unchanged (some app) = .ok app := fun _ => rfl
  obtain ⟨sent, hreplaces, hiff⟩ := unchanged_spec_iff (by decide) (by decide) h hidentity false
  exact ⟨sent, hreplaces, hiff.mpr ⟨_, rfl, by decide⟩⟩

/-- The version of the reference is lost, though nothing was to be changed. -/
theorem source_of_chart_is_cut :
    let record := referringRecord [("apiVersion", .string "source.toolkit.fluxcd.io/v1")]
    ∃ sent, sampleType.Replaces "tenant" "shop" unchanged false record sent ∧
      record.toJson.at? ["spec", "chart", "spec", "sourceRef", "apiVersion"] =
        some (.string "source.toolkit.fluxcd.io/v1") ∧
      sent.toJson.at? ["spec", "chart", "spec", "sourceRef", "apiVersion"] = none ∧
      ¬ Json.AlikeAt ["spec"] record.toJson sent.toJson := by
  intro record
  have hread : (Release.ofRecord record).toOption.any sampleType.inScope = true := by decide +kernel
  obtain ⟨release, h⟩ : ∃ release, sampleType.Ordinary "tenant" "shop" record release := ordinary_referringRecord hread
  have hidentity : ∀ app, unchanged (some app) = .ok app := fun _ => rfl
  obtain ⟨sent, hreplaces, hsent⟩ := h.replaces (by decide) (by decide) hidentity false
  refine ⟨sent, hreplaces, rfl, Json.at?_snoc hsent.source "apiVersion", ?_⟩
  rw [h.unchanged_iff hsent]
  rintro ⟨ms, hms, hall⟩
  cases hms
  have hversion : "apiVersion" ∈ ["kind", "name", "namespace"] :=
    hall ("apiVersion", .string "source.toolkit.fluxcd.io/v1") (by simp)
  exact absurd hversion (by decide)

end ResourceDefinition

end AppGateway
