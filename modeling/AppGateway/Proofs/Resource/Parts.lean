import AppGateway.Proofs.Json.Paths
import AppGateway.Proofs.Resource.Reread

/-!
# Where the parts of a release stand

The desired state of a release, the template in it and the chart in this each come from an object of the record that the
release was read of, and their uninterpreted members are all the others of this object.

* (reading) `Release.standsIn_of_ofRecord`: the three objects of a release that names its chart;
* (writing) `Release.at?_toJson`: the objects that the parts of a release are written as.
-/

namespace AppGateway

namespace ChartSource

/-- The parts of a chart source that was read of an object are found there. -/
theorem of_ofJson? {ms : Members} {s : ChartSource} (h : ofJson? (.object ms) = some s) :
    (∀ value, s.kind = some value → ms.get? "kind" = some (.string value)) ∧
    (∀ value, s.name = some value → ms.get? "name" = some (.string value)) ∧
    ∀ value, s.ns = some value → ms.get? "namespace" = some (.string value) := by
  simp only [ofJson?, Option.bind_eq_bind, Option.bind_eq_some_iff] at h
  obtain ⟨ms', hfields, kind, hkind, name, hname, ns, hns, hs⟩ := h
  cases hs
  obtain ⟨rfl, hone⟩ := Members.of_strictMembers? hfields
  refine ⟨?_, ?_, ?_⟩
  · rintro value rfl
    exact Members.text_of_nullable_once (hone "kind" (by simp)) hkind
  · rintro value rfl
    exact Members.text_of_nullable_once (hone "name" (by simp)) hname
  · rintro value rfl
    exact Members.text_of_nullable_once (hone "namespace" (by simp)) hns

end ChartSource

namespace Chart

/-- How a chart stands in the members of an object. -/
structure StandsIn (c : Chart) (ms : Members) : Prop where
  chart : ∀ s, c.chart = some s → ms.get? "chart" = some (.string s)
  version : ∀ s, ms.get? "version" = some (.string s) → c.version = some s
  source : ∀ s, c.source = some s → ∃ j, ms.get? "sourceRef" = some j ∧ ChartSource.ofJson? j = some s
  extra : c.extra = ms.without known

/-- The parts of a written chart are found in it, and nothing is where there is none. -/
theorem get?_members {c : Chart} (h : c.Rereads) :
    c.members.get? "chart" = c.chart.map .string ∧ c.members.get? "version" = c.version.map .string ∧
      c.members.get? "reconcileStrategy" = c.reconcileStrategy.map .string ∧
      c.members.get? "sourceRef" = c.source.map ChartSource.toJson := by
  have hchart : c.extra.get? "chart" = none := Members.Avoids.get?_eq h (by decide)
  have hversion : c.extra.get? "version" = none := Members.Avoids.get?_eq h (by decide)
  have hstrategy : c.extra.get? "reconcileStrategy" = none := Members.Avoids.get?_eq h (by decide)
  have hsource : c.extra.get? "sourceRef" = none := Members.Avoids.get?_eq h (by decide)
  simp [members, toJson, Json.members?, Members.get?_append, Members.get?_optional, hchart, hversion, hstrategy,
    hsource]

private theorem standsIn_of_ofJson? {j : Json} {c : Chart} (h : ofJson? j = some c) : ∃ ms, j = .object ms ∧
    c.StandsIn ms := by
  simp only [ofJson?, Option.bind_eq_bind, Option.bind_eq_some_iff] at h
  obtain ⟨ms, hstrict, chart, hchart, version, hversion, _, -, source, hsource, hc⟩ := h
  cases hc
  obtain ⟨rfl, hone⟩ := Members.object_of_strictMembers? hstrict
  refine ⟨ms, rfl, ?_, fun s hs => ?_, ?_, rfl⟩
  · rintro s rfl
    exact Members.text_of_nullable_once (hone "chart" (by decide)) hchart
  · rw [Members.nullable_of_once _ (hone "version" (by decide)), hs] at hversion
    exact (Option.some.inj hversion).symm
  · rintro s rfl
    exact Members.found_of_nullable (hone "sourceRef" (by decide)) hsource

end Chart

namespace Release

/-- How the desired state of a release, the template in it and the chart in this stand in the objects of a value. -/
structure StandsIn (r : Release) (j : Json) (t : ChartTemplate) (spec template chart : Members) : Prop where
  at_spec : j.at? ["spec"] = some (.object spec)
  at_template : j.at? ["spec", "chart"] = some (.object template)
  at_chart : j.at? ["spec", "chart", "spec"] = some (.object chart)
  values : r.spec.values = Members.dropNull (spec.get? "values")
  extra : r.spec.extra = spec.without ["chart", "values"]
  templateExtra : t.extra = template.without ["spec"]
  chart : t.spec.StandsIn chart

end Release

private theorem ChartTemplate.standsIn_of_ofJson? {j : Json} {t : ChartTemplate} (h : ofJson? j = some t)
    (hnamed : t.spec.chart ≠ none) :
    ∃ template chart : Members, j = .object template ∧ template.get? "spec" = some (.object chart) ∧
      t.extra = template.without ["spec"] ∧ t.spec.StandsIn chart := by
  simp only [ofJson?, Option.bind_eq_bind, Option.bind_eq_some_iff] at h
  obtain ⟨template, hstrict, c, hc, ht⟩ := h
  cases ht
  obtain ⟨rfl, hone⟩ := Members.object_of_strictMembers? hstrict
  rw [Members.read_of_once _ _ (hone "spec" (by simp))] at hc
  cases hfound : template.get? "spec" with
  | none =>
    rw [hfound] at hc
    cases hc
    exact absurd rfl hnamed
  | some j =>
    rw [hfound] at hc
    obtain ⟨chart, rfl, hstands⟩ := Chart.standsIn_of_ofJson? hc
    exact ⟨template, chart, rfl, hfound, rfl, hstands⟩

private theorem ReleaseSpec.standsIn_of_ofJson? {j : Json} {s : ReleaseSpec} (h : ofJson? j = some s)
    {t : ChartTemplate} (ht : s.chart = some t) :
    ∃ (spec : Members) (j' : Json), j = .object spec ∧ spec.get? "chart" = some j' ∧
      ChartTemplate.ofJson? j' = some t ∧ s.values = Members.dropNull (spec.get? "values") ∧
      s.extra = spec.without ["chart", "values"] := by
  simp only [ofJson?, Option.bind_eq_bind, Option.bind_eq_some_iff] at h
  obtain ⟨spec, hstrict, chart, hchart, values, hvalues, hs⟩ := h
  cases hs
  cases ht
  obtain ⟨rfl, hone⟩ := Members.object_of_strictMembers? hstrict
  obtain ⟨j', hfound, hread⟩ := Members.found_of_nullable (hone "chart" (by simp)) hchart
  have hkept : some (Members.dropNull (spec.get? "values")) = some values := by
    rw [← hvalues]
    exact (Members.nullable_dropNull (Members.filter_eq_optional_get? (hone "values" (by simp)))).symm
  exact ⟨spec, j', rfl, hfound, hread, (Option.some.inj hkept).symm, rfl⟩

namespace Release

/-- The objects that a release was read of, if it names its chart. -/
theorem standsIn_of_ofRecord {record : Record} {r : Release} (h : ofRecord record = .ok r) {t : ChartTemplate}
    (ht : r.spec.chart = some t) (hnamed : t.spec.chart ≠ none) :
    ∃ spec template chart : Members, r.StandsIn record.toJson t spec template chart := by
  obtain ⟨ms, hms⟩ : ∃ ms : Members, record.toJson = .object ms := ⟨_, rfl⟩
  rw [ofRecord, hms] at h
  split at h
  · rename_i r' hr
    cases h
    simp only [ofJson?, Option.bind_eq_bind, Option.bind_eq_some_iff] at hr
    obtain ⟨ms', hstrict, _, -, _, -, _, -, s, hs, _, -, hr⟩ := hr
    cases hr
    obtain ⟨rfl, hone⟩ := Members.of_strictMembers? hstrict
    rw [Members.read_of_once _ _ (hone "spec" (by simp))] at hs
    cases hfound : Members.get? ms' "spec" with
    | none =>
      rw [hfound] at hs
      cases hs
      cases ht
    | some j =>
      rw [hfound] at hs
      obtain ⟨spec, j', rfl, hchart, hread, hvalues, hextra⟩ := ReleaseSpec.standsIn_of_ofJson? hs ht
      obtain ⟨template, chart, rfl, hspec, htemplate, hstands⟩ := ChartTemplate.standsIn_of_ofJson? hread hnamed
      refine ⟨spec, template, chart, ?_, ?_, ?_, hvalues, hextra, htemplate, hstands⟩
      all_goals
        rw [hms]
        simp only [Json.at?, Json.member?, hfound, hchart, hspec, Option.bind_some]
  · cases h

theorem get?_values {s : ReleaseSpec} (h : s.extra.Avoids ["chart", "values"]) :
    s.members.get? "values" = s.values := by
  simp [ReleaseSpec.members, Members.get?_append, Members.get?_optional, h.get?_eq]

/-- The objects of a written release. -/
theorem at?_toJson (r : Release) {t : ChartTemplate} (ht : r.spec.chart = some t) :
    r.toJson.at? ["spec"] = some (.object r.spec.members) ∧
    r.toJson.at? ["spec", "chart"] = some (.object t.members) ∧
    r.toJson.at? ["spec", "chart", "spec"] = some (.object t.spec.members) := by
  have hspec : Members.get? r.members "spec" = some (.object r.spec.members) := by
    simp [members, Members.get?_cons, ReleaseSpec.toJson_eq]
  have htemplate : Members.get? r.spec.members "chart" = some (.object t.members) := by
    simp [ReleaseSpec.members, ht, Members.get?_cons, ChartTemplate.toJson_eq]
  have hchart : Members.get? t.members "spec" = some (.object t.spec.members) := by
    simp [ChartTemplate.members, Members.get?_cons, Chart.toJson_eq]
  simp only [toJson_eq, Json.at?, Json.member?, hspec, htemplate, hchart, Option.bind_some, and_self]

end Release

end AppGateway
