import AppGateway.Proofs.Meta.Reread
import AppGateway.Resource.Release

/-!
# Releases are read back as they were written

`Release.ofJson?_toJson`: a release whose parts are read back (`Release.Rereads`) is read back as a whole.  What can go
wrong is little: a known key among the members that are not interpreted, a null as the values of the chart, and a time.

* (records) `Release.toRecord_eq`: such a release is written as the record `Release.toStored`, and writing that record
  gives the same object (`Release.toStored_toJson`), so that nothing is lost on the way to the store.
-/

namespace AppGateway

theorem ChartSource.ofJson?_toJson (s : ChartSource) : ofJson? s.toJson = some s := by
  obtain ⟨kind, name, ns⟩ := s
  cases kind <;> cases name <;> cases ns <;> rfl

namespace Chart

/-- The members of a written chart. -/
def members (c : Chart) : Members := c.toJson.members?.getD []

theorem toJson_eq (c : Chart) : c.toJson = .object c.members := rfl

/-- The members of a chart that are not interpreted have no known key. -/
def Rereads (c : Chart) : Prop := c.extra.Avoids known

private theorem filter_members (c : Chart) (key : String) :
    c.members.filter (·.1 == key) =
      (Members.optional "chart" (c.chart.map .string)).filter (·.1 == key)
      ++ (Members.optional "version" (c.version.map .string)).filter (·.1 == key)
      ++ (Members.optional "reconcileStrategy" (c.reconcileStrategy.map .string)).filter (·.1 == key)
      ++ (Members.optional "sourceRef" (c.source.map ChartSource.toJson)).filter (·.1 == key)
      ++ c.extra.filter (·.1 == key) := by
  simp only [members, toJson, Json.members?, Option.getD_some, List.filter_append]

theorem without_members {c : Chart} (h : c.Rereads) : c.members.without known = c.extra := by
  simp only [members, toJson, Json.members?, Option.getD_some, Members.without_append]
  simp (disch := decide) only [Members.without_optional, List.nil_append]
  exact h.without_eq

theorem ofJson?_toJson {c : Chart} (h : c.Rereads) : ofJson? c.toJson = some c := by
  have hextra : ∀ key ∈ known, c.extra.filter (·.1 == key) = [] := fun _ => Members.Avoids.filter_eq h
  have hchart : c.members.filter (·.1 == "chart") = Members.optional "chart" (c.chart.map .string) := by
    simp [filter_members, Members.filter_optional, hextra "chart" (by decide)]
  have hversion : c.members.filter (·.1 == "version") = Members.optional "version" (c.version.map .string) := by
    simp [filter_members, Members.filter_optional, hextra "version" (by decide)]
  have hstrategy : c.members.filter (·.1 == "reconcileStrategy") =
      Members.optional "reconcileStrategy" (c.reconcileStrategy.map .string) := by
    simp [filter_members, Members.filter_optional, hextra "reconcileStrategy" (by decide)]
  have hsource : c.members.filter (·.1 == "sourceRef") =
      Members.optional "sourceRef" (c.source.map ChartSource.toJson) := by
    simp [filter_members, Members.filter_optional, hextra "sourceRef" (by decide)]
  have hstrict : Json.strictMembers? known (.object c.members) = some c.members := by
    refine Members.strictMembers?_object fun n hn => ?_
    simp only [known, List.mem_cons, List.not_mem_nil, or_false] at hn
    rcases hn with rfl | rfl | rfl | rfl
    · exact ⟨_, hchart⟩
    · exact ⟨_, hversion⟩
    · exact ⟨_, hstrategy⟩
    · exact ⟨_, hsource⟩
  have hsource' : c.members.nullable "sourceRef" ChartSource.ofJson? = some c.source :=
    Members.nullable_of_reread hsource fun s _ => congrArg (Option.map some) s.ofJson?_toJson
  rw [toJson_eq, ofJson?, hstrict]
  simp only [Members.nullable_text hchart, Members.nullable_text hversion, Members.nullable_text hstrategy, hsource',
    without_members h, Option.bind_eq_bind, Option.bind_some]
  rfl

end Chart

namespace ChartTemplate

/-- The chart is read back, and no other member has its key. -/
structure Rereads (t : ChartTemplate) : Prop where
  spec : t.spec.Rereads
  extra : t.extra.Avoids ["spec"]

/-- The members of a written template. -/
def members (t : ChartTemplate) : Members := Members.optional "spec" (some t.spec.toJson) ++ t.extra

theorem toJson_eq (t : ChartTemplate) : t.toJson = .object t.members := rfl

theorem without_members {t : ChartTemplate} (h : t.Rereads) : t.members.without ["spec"] = t.extra := by
  rw [members, Members.without_append, Members.without_optional _ (by simp), h.extra.without_eq, List.nil_append]

theorem ofJson?_toJson {t : ChartTemplate} (h : t.Rereads) : ofJson? t.toJson = some t := by
  have hspec : t.members.filter (·.1 == "spec") = Members.optional "spec" (some t.spec.toJson) := by
    rw [members, List.filter_append, h.extra.filter_eq (by simp), List.append_nil, Members.filter_optional]
    rfl
  have hstrict : Json.strictMembers? ["spec"] (.object t.members) = some t.members := by
    refine Members.strictMembers?_object fun n hn => ?_
    rw [List.mem_singleton.mp hn]
    exact ⟨_, hspec⟩
  have hread : t.members.read "spec" Chart.ofJson? {} = some t.spec := by
    rw [Members.read_of_filter_some _ _ hspec, Chart.ofJson?_toJson h.spec]
  rw [toJson_eq, ofJson?, hstrict]
  simp only [hread, without_members h, Option.bind_eq_bind, Option.bind_some]
  rfl

end ChartTemplate

namespace ReleaseSpec

/-- The chart template is read back, the values are no null, and no other member has a known key. -/
structure Rereads (s : ReleaseSpec) : Prop where
  chart : ∀ t, s.chart = some t → t.Rereads
  values : s.values ≠ some .null
  extra : s.extra.Avoids ["chart", "values"]

/-- The members of a written desired state. -/
def members (s : ReleaseSpec) : Members :=
  Members.optional "chart" (s.chart.map ChartTemplate.toJson) ++ Members.optional "values" s.values ++ s.extra

theorem toJson_eq (s : ReleaseSpec) : s.toJson = .object s.members := rfl

theorem without_members {s : ReleaseSpec} (h : s.extra.Avoids ["chart", "values"]) :
    s.members.without ["chart", "values"] = s.extra := by
  simp (disch := decide) only [members, Members.without_append, Members.without_optional, List.nil_append]
  exact h.without_eq

/-- A desired state as it is read back: values that are null count as none. -/
def settled (s : ReleaseSpec) : ReleaseSpec := { s with values := Members.dropNull s.values }

private theorem settled_of_rereads {s : ReleaseSpec} (h : s.Rereads) : s.settled = s := by
  rw [settled, Members.dropNull_of_ne h.values]

private theorem ofJson?_toJson_settled {s : ReleaseSpec} (h : s.settled.Rereads) : ofJson? s.toJson = some s.settled :=
    by
  have havoids : s.extra.Avoids ["chart", "values"] := h.extra
  have hchart : s.members.filter (·.1 == "chart") =
      Members.optional "chart" (s.chart.map ChartTemplate.toJson) := by
    simp [members, Members.filter_optional, havoids.filter_eq]
  have hvalues : s.members.filter (·.1 == "values") = Members.optional "values" s.values := by
    simp [members, Members.filter_optional, havoids.filter_eq]
  have hstrict : Json.strictMembers? ["chart", "values"] (.object s.members) = some s.members := by
    refine Members.strictMembers?_object fun n hn => ?_
    simp only [List.mem_cons, List.not_mem_nil, or_false] at hn
    rcases hn with rfl | rfl
    · exact ⟨_, hchart⟩
    · exact ⟨_, hvalues⟩
  have hread : s.members.nullable "chart" ChartTemplate.ofJson? = some s.chart :=
    Members.nullable_of_reread hchart fun t ht =>
      congrArg (Option.map some) (ChartTemplate.ofJson?_toJson (h.chart t ht))
  rw [toJson_eq, ofJson?, hstrict]
  simp only [hread, Members.nullable_dropNull hvalues, without_members havoids, Option.bind_eq_bind, Option.bind_some]
  rfl

end ReleaseSpec

namespace Release

/-- The metadata, the desired state and the observed state are read back. -/
structure Rereads (r : Release) : Prop where
  metadata : r.metadata.Rereads
  spec : r.spec.Rereads
  status : ∀ s, r.status = some s → ReleaseStatus.ofJson? s.toJson = some s

/-- The members of a written release. -/
def members (r : Release) : Members :=
  Members.optional "apiVersion" (some (.string r.apiVersion)) ++ Members.optional "kind" (some (.string r.kind))
    ++ Members.optional "metadata" (some r.metadata.toJson) ++ Members.optional "spec" (some r.spec.toJson)
    ++ Members.optional "status" (r.status.map ReleaseStatus.toJson)

theorem toJson_eq (r : Release) : r.toJson = .object r.members := rfl

private theorem filter_members (r : Release) (key : String) :
    r.members.filter (·.1 == key) =
      (Members.optional "apiVersion" (some (.string r.apiVersion))).filter (·.1 == key)
      ++ (Members.optional "kind" (some (.string r.kind))).filter (·.1 == key)
      ++ (Members.optional "metadata" (some r.metadata.toJson)).filter (·.1 == key)
      ++ (Members.optional "spec" (some r.spec.toJson)).filter (·.1 == key)
      ++ (Members.optional "status" (r.status.map ReleaseStatus.toJson)).filter (·.1 == key) := by
  simp only [members, List.filter_append]

private theorem filter_metadata (r : Release) :
    r.members.filter (·.1 == "metadata") = Members.optional "metadata" (some r.metadata.toJson) := by
  simp only [filter_members, Members.filter_optional, String.reduceEq, if_true, if_false, List.append_nil,
    List.nil_append]

private theorem filter_spec (r : Release) :
    r.members.filter (·.1 == "spec") = Members.optional "spec" (some r.spec.toJson) := by
  simp only [filter_members, Members.filter_optional, String.reduceEq, if_true, if_false, List.append_nil,
    List.nil_append]

private theorem filter_status (r : Release) :
    r.members.filter (·.1 == "status") = Members.optional "status" (r.status.map ReleaseStatus.toJson) := by
  simp only [filter_members, Members.filter_optional, String.reduceEq, if_true, if_false, List.append_nil,
    List.nil_append]

private theorem filter_apiVersion (r : Release) :
    r.members.filter (·.1 == "apiVersion") = Members.optional "apiVersion" (some (.string r.apiVersion)) := by
  simp only [filter_members, Members.filter_optional, String.reduceEq, if_true, if_false, List.append_nil]

private theorem filter_kind (r : Release) :
    r.members.filter (·.1 == "kind") = Members.optional "kind" (some (.string r.kind)) := by
  simp only [filter_members, Members.filter_optional, String.reduceEq, if_true, if_false, List.append_nil,
    List.nil_append]

/-- A release as it is read back: values that are null count as none. -/
def settled (r : Release) : Release := { r with spec := r.spec.settled }

/-- A release that is read back has settled. -/
theorem settled_of_rereads {r : Release} (h : r.Rereads) : r.settled = r := by
  rw [settled, ReleaseSpec.settled_of_rereads h.spec]

private theorem ofJson?_toJson_settled {r : Release} (h : r.settled.Rereads) : ofJson? r.toJson = some r.settled := by
  have hstrict : Json.strictMembers? ["apiVersion", "kind", "metadata", "spec", "status"] (.object r.members) =
      some r.members := by
    refine Members.strictMembers?_object fun n hn => ?_
    simp only [List.mem_cons, List.not_mem_nil, or_false] at hn
    rcases hn with rfl | rfl | rfl | rfl | rfl
    · exact ⟨_, r.filter_apiVersion⟩
    · exact ⟨_, r.filter_kind⟩
    · exact ⟨_, r.filter_metadata⟩
    · exact ⟨_, r.filter_spec⟩
    · exact ⟨_, r.filter_status⟩
  have hversion : r.members.read "apiVersion" Json.string? "" = some r.apiVersion :=
    Members.read_of_filter_some _ _ r.filter_apiVersion
  have hkind : r.members.read "kind" Json.string? "" = some r.kind :=
    Members.read_of_filter_some _ _ r.filter_kind
  have hmetadata : r.members.read "metadata" ObjectMeta.ofJson? {} = some r.metadata :=
    (Members.read_of_filter_some _ _ r.filter_metadata).trans (ObjectMeta.ofJson?_toJson h.metadata)
  have hspec : r.members.read "spec" ReleaseSpec.ofJson? {} = some r.settled.spec :=
    (Members.read_of_filter_some _ _ r.filter_spec).trans (ReleaseSpec.ofJson?_toJson_settled h.spec)
  have hstatus : r.members.nullable "status" ReleaseStatus.ofJson? = some r.status :=
    Members.nullable_of_reread r.filter_status fun s hs => congrArg (Option.map some) (h.status s hs)
  rw [toJson_eq, ofJson?, hstrict]
  simp only [hversion, hkind, hmetadata, hspec, hstatus, Option.bind_eq_bind, Option.bind_some]
  rfl

theorem ofJson?_toJson {r : Release} (h : r.Rereads) : ofJson? r.toJson = some r := by
  have hsettled := settled_of_rereads h
  rw [ofJson?_toJson_settled (hsettled.symm ▸ h), hsettled]

/-! ### Releases as records -/

/-- The record that a release is written as. -/
def toStored (r : Release) : Record where
  type := some ⟨r.apiVersion, r.kind⟩
  metadata := r.metadata
  data := Members.optional "spec" (some r.spec.toJson)
    ++ Members.optional "status" (r.status.map ReleaseStatus.toJson)

/-- Writing the record of a release gives the same object as writing the release. -/
theorem toStored_toJson (r : Release) : r.toStored.toJson = r.toJson := by
  cases hs : r.status <;> simp [toStored, Record.toJson, toJson, hs]

/-- What is read of a written release, whatever becomes of its metadata. -/
theorem record_ofJson?_toJson (r : Release) :
    Record.ofJson? r.toJson =
      (ObjectMeta.ofJson? r.metadata.toJson).map fun m => { r.toStored with metadata := m } := by
  have hstrict : Json.strictMembers? ["metadata"] (.object r.members) = some r.members := by
    refine Members.strictMembers?_object fun n hn => ?_
    rw [List.mem_singleton.mp hn]
    exact ⟨_, r.filter_metadata⟩
  have hmetadata : r.members.read "metadata" ObjectMeta.ofJson? {} = ObjectMeta.ofJson? r.metadata.toJson :=
    Members.read_of_filter_some _ _ r.filter_metadata
  have htake : TypeMeta.take none none (r.members.without ["metadata"]) =
      (some ⟨r.apiVersion, r.kind⟩, r.toStored.data) := by
    cases hs : r.status <;> simp [members, hs, Members.without, toStored] <;> rfl
  have hlist : Members.ofList r.toStored.data = r.toStored.data := by
    rw [toStored]
    cases r.status with
    | none => rfl
    | some status =>
      show Members.ofList [("spec", r.spec.toJson), ("status", status.toJson)] = _
      rw [Members.ofList, List.foldl_cons, List.foldl_cons, Members.set, Members.set,
        if_neg (by decide : ¬ "status" = "spec"), if_neg (by decide : ¬ "status" < "spec")]
      rfl
  rw [toJson_eq, Record.ofJson?, hstrict]
  simp only [Option.bind_eq_bind, Option.bind_some, hmetadata, htake, hlist]
  cases ObjectMeta.ofJson? r.metadata.toJson <;> rfl

theorem toRecord_of_metadata {r : Release} (h : r.metadata.Rereads) : r.toRecord = .ok r.toStored := by
  rw [toRecord, record_ofJson?_toJson, ObjectMeta.ofJson?_toJson h]
  rfl

theorem toRecord_eq {r : Release} (h : r.Rereads) : r.toRecord = .ok r.toStored := toRecord_of_metadata h.metadata

/-- The metadata of a release is that of its record, written and read once more. -/
theorem metadata_of_ofRecord {record : Record} {r : Release} (h : ofRecord record = .ok r) :
    ObjectMeta.ofJson? record.metadata.toJson = some r.metadata := by
  obtain ⟨ms, hms, hmem⟩ : ∃ ms : Members, record.toJson = .object ms ∧ ("metadata", record.metadata.toJson) ∈ ms :=
    ⟨_, rfl, by simp⟩
  rw [ofRecord, hms] at h
  split at h
  · rename_i r' hr
    cases h
    simp only [ofJson?, Option.bind_eq_bind, Option.bind_eq_some_iff] at hr
    obtain ⟨ms', hstrict, _, _, _, _, m, hm, _, _, _, _, hr⟩ := hr
    cases hr
    obtain ⟨rfl, hone⟩ := Members.of_strictMembers? hstrict
    rw [Members.read_of_filter_some _ _ (Members.filter_of_mem hmem (hone "metadata" (by simp)))] at hm
    exact hm
  · cases h

/-- The metadata of a written record is that of its release, written and read. -/
theorem metadata_of_toRecord {record : Record} {r : Release} (h : r.toRecord = .ok record) :
    ObjectMeta.ofJson? r.metadata.toJson = some record.metadata := by
  rw [toRecord, record_ofJson?_toJson] at h
  cases hm : ObjectMeta.ofJson? r.metadata.toJson with
  | none => simp [hm] at h
  | some m =>
    simp only [hm, Option.map_some, Except.ok.injEq] at h
    rw [← h]

theorem ofRecord_settled {r : Release} (h : r.settled.Rereads) : ofRecord r.toStored = .ok r.settled := by
  rw [ofRecord, toStored_toJson, ofJson?_toJson_settled h]

theorem ofRecord_toStored {r : Release} (h : r.Rereads) : ofRecord r.toStored = .ok r := by
  rw [ofRecord, toStored_toJson, ofJson?_toJson h]

end Release

end AppGateway
