import AppGateway.Proofs.Backing.Versions
import AppGateway.Proofs.Meta.Seconds
import AppGateway.Proofs.Resource.Parts

/-!
# Releases after a merge

A merge patch may say anything, and the record that it leaves need not be a release any more.  One that has nothing to
say of the type of the record, of its status, and of the chart leaves a release, with the same chart, if it leaves a
record at all: `Release.ofRecord_of_merge`.  Values, all other members of the desired state, and metadata may change in
any way.

* (store) `StoredObject`: what is in store comes in key order;
* (merging) `Json.filter_mergeMembers`: what a patch does not name stays; `Json.SparesChart.mergeMembers`: what becomes
  of the desired state, by induction on the patch;
* (records) `Record.of_ofJson?`: a record that is read of members in key order has these, but for its type;
* (releases) `Release.ofRecord_eq_ok_iff`: a release is read member by member; `ReadOf.of_filter`: each depends on the
  members with its key.
-/

namespace AppGateway

namespace Members

variable {q : String → Bool} {key : String}

private theorem filter_set_of_not (h : q key = false) (ms : Members) (v : Json) :
    (ms.set key v).filter (q ·.1) = ms.filter (q ·.1) := by
  induction ms with
  | nil => simp [set, h]
  | cons m ms ih =>
    unfold set
    split
    · rename_i he
      subst he
      simp [h]
    · split
      · simp [h]
      · rw [List.filter_cons, List.filter_cons, ih]

private theorem filter_erase_of_not (h : q key = false) (ms : Members) : (ms.erase key).filter (q ·.1) = ms.filter
    (q ·.1) := by
  rw [erase, List.filter_filter]
  refine List.filter_congr fun m _ => ?_
  by_cases hm : m.1 = key
  · simp [hm, h]
  · simp [hm]

private theorem filter_key_filter (h : q key = true) (ms : Members) :
    (ms.filter (q ·.1)).filter (·.1 == key) = ms.filter (·.1 == key) := by
  rw [List.filter_filter]
  refine List.filter_congr fun m _ => ?_
  by_cases hm : m.1 = key
  · simp [hm, h]
  · simp [hm]

/-- Members that come in key order are put one behind another. -/
private theorem ofList_of_ordered {ms : Members} (h : ms.Ordered) : ofList ms = ms := by
  suffices hall : ∀ (acc rest : Members), Ordered (acc ++ rest) →
      rest.foldl (fun acc m => acc.set m.1 m.2) acc = acc ++ rest from hall [] ms h
  intro acc rest
  induction rest generalizing acc with
  | nil => simp
  | cons m rest ih =>
    intro hord
    have hlast : acc.set m.1 m.2 = acc ++ [m] := by
      have hbelow : ∀ m' ∈ acc, m'.1 < m.1 := fun m' hm' => (List.pairwise_append.mp hord).2.2 m' hm' m (by simp)
      simpa [set] using set_append [] m.1 m.2 hbelow
    rw [List.foldl_cons, hlast, ih _ (by simpa using hord), List.append_assoc, List.singleton_append]

end Members

/-- An object in store.  Its members, and those of its desired state, are in key order, as they are in whatever was
read. -/
structure StoredObject where
  members : Members
  ordered : members.Ordered
  spec_ordered : ∀ spec, members.get? "spec" = some (.object spec) → Members.Ordered spec

/-- The object as a value. -/
def StoredObject.toJson (o : StoredObject) : Json := .object o.members

namespace Json

/-- A merge changes no members but those that the patch names. -/
theorem filter_mergeMembers {q : String → Bool} {patch : Members} (h : ∀ m ∈ patch, q m.1 = false) (target : Members) :
    (mergeMembers target patch).filter (q ·.1) = target.filter (q ·.1) := by
  induction patch generalizing target with
  | nil => rfl
  | cons m rest ih =>
    obtain ⟨hm, hrest⟩ := List.forall_mem_cons.mp h
    obtain ⟨key, v⟩ := m
    cases v with
    | null => exact (ih hrest _).trans (Members.filter_erase_of_not hm _)
    | _ => exact (ih hrest _).trans (Members.filter_set_of_not hm _ _)

/-- The members of a release that tell its type, and its status. -/
def spared : List String := ["apiVersion", "kind", "status"]

/-- A merge patch that has nothing to say of the type of a record, of its status, and of the chart in its desired
state. -/
structure SparesChart (patch : Members) : Prop where
  others : patch.Avoids spared
  spec : ∀ v, ("spec", v) ∈ patch → ∃ ms : Members, v = .object ms ∧ ms.Avoids ["chart"]

private theorem SparesChart.tail {m : String × Json} {rest : Members} (h : SparesChart (m :: rest)) :
    SparesChart rest where
  others m' hm' := h.others m' (by simp [hm'])
  spec v hv := h.spec v (by simp [hv])

/-- The desired state that such a patch leaves has the same chart. -/
theorem SparesChart.mergeMembers {patch : Members} (h : SparesChart patch) {target spec : Members}
    (hspec : target.get? "spec" = some (.object spec)) (hord : spec.Ordered) :
    ∃ spec' : Members, Members.get? (mergeMembers target patch) "spec" = some (.object spec') ∧ spec'.Ordered ∧
      spec'.filter (·.1 == "chart") = spec.filter (·.1 == "chart") := by
  induction patch generalizing target spec with
  | nil => exact ⟨spec, hspec, hord, rfl⟩
  | cons m rest ih =>
    obtain ⟨key, v⟩ := m
    by_cases hkey : key = "spec"
    · subst hkey
      obtain ⟨ms, rfl, havoids⟩ := h.spec v (by simp)
      have hmerged : merge ((target.get? "spec").getD .null) (.object ms) = .object (Json.mergeMembers spec ms) := by
        rw [hspec]
        rfl
      have hnext := ih h.tail (Members.get?_set_self target "spec" (.object (Json.mergeMembers spec ms)))
        (MemoryStore.ordered_mergeMembers hord ms)
      obtain ⟨spec', hget, hord', hchart⟩ := hnext
      have hkept : (Json.mergeMembers spec ms).filter (·.1 == "chart") = spec.filter (·.1 == "chart") :=
        filter_mergeMembers (q := (· == "chart")) (fun m hm => by simpa using havoids m hm) spec
      refine ⟨spec', ?_, hord', hchart.trans hkept⟩
      rw [← hmerged] at hget
      exact hget
    · have hget (t : Members) (ht : t.get? "spec" = target.get? "spec") :
          ∃ spec' : Members, Members.get? (Json.mergeMembers t rest) "spec" = some (.object spec') ∧ spec'.Ordered ∧
            spec'.filter (·.1 == "chart") = spec.filter (·.1 == "chart") :=
        ih h.tail (ht.trans hspec) hord
      cases v with
      | null => exact hget _ (Members.get?_erase_of_ne _ (Ne.symm hkey))
      | _ => exact hget _ (Members.get?_set_of_ne _ _ (Ne.symm hkey))

end Json

namespace TypeMeta

variable {apiVersion kind : Option String}

private theorem take_cons (key : String) (v : Json) (rest : Members) :
    take apiVersion kind ((key, v) :: rest) =
      if key = "apiVersion" then
        match apiVersion, v with
        | none, .string s => take (some s) kind rest
        | _, _ => (none, rest)
      else if key = "kind" then
        match kind, v with
        | none, .string s => take apiVersion (some s) rest
        | _, _ => (none, rest)
      else ((take apiVersion kind rest).1, (key, v) :: (take apiVersion kind rest).2) := rfl

/-- Members without any bearing on the type can be left out before it is taken, or after. -/
private theorem take_filter {q : String → Bool} (hversion : q "apiVersion" = true) (hkind : q "kind" = true)
    (ms : Members) : take apiVersion kind (ms.filter (q ·.1)) =
      ((take apiVersion kind ms).1, (take apiVersion kind ms).2.filter (q ·.1)) := by
  induction ms generalizing apiVersion kind with
  | nil => rcases apiVersion with _ | a <;> rcases kind with _ | k <;> rfl
  | cons m ms ih =>
    obtain ⟨key, v⟩ := m
    by_cases hv : key = "apiVersion"
    · subst hv
      rw [List.filter_cons_of_pos (by exact hversion), take_cons, take_cons, if_pos rfl, if_pos rfl]
      split
      · exact ih
      · rfl
    · by_cases hk : key = "kind"
      · subst hk
        rw [List.filter_cons_of_pos (by exact hkind), take_cons, take_cons, if_neg hv, if_neg hv, if_pos rfl,
          if_pos rfl]
        split
        · exact ih
        · rfl
      · rw [take_cons, if_neg hv, if_neg hk]
        by_cases hq : q key = true
        · rw [List.filter_cons_of_pos (by exact hq), take_cons, if_neg hv, if_neg hk, ih]
          simp [hq]
        · rw [List.filter_cons_of_neg (by exact hq), ih]
          simp [hq]

private theorem take_sublist (ms : Members) : (take apiVersion kind ms).2.Sublist ms := by
  induction ms generalizing apiVersion kind with
  | nil => rcases apiVersion with _ | a <;> rcases kind with _ | k <;> exact .slnil
  | cons m ms ih =>
    obtain ⟨key, v⟩ := m
    rw [take_cons]
    split
    · split
      · exact ih.cons _
      · exact List.sublist_cons_self _ _
    · split
      · split
        · exact ih.cons _
        · exact List.sublist_cons_self _ _
      · exact ih.cons_cons _

/-- Only the type is taken. -/
private theorem filter_take {key : String} (hversion : key ≠ "apiVersion") (hkind : key ≠ "kind") (ms : Members) :
    (take apiVersion kind ms).2.filter (·.1 == key) = ms.filter (·.1 == key) := by
  induction ms generalizing apiVersion kind with
  | nil => rcases apiVersion with _ | a <;> rcases kind with _ | k <;> rfl
  | cons m ms ih =>
    obtain ⟨k, v⟩ := m
    rw [take_cons]
    split
    · rename_i hk
      rw [List.filter_cons_of_neg (by simpa [hk] using hversion.symm)]
      split
      · exact ih
      · rfl
    · split
      · rename_i hk
        rw [List.filter_cons_of_neg (by simpa [hk] using hkind.symm)]
        split
        · exact ih
        · rfl
      · rw [List.filter_cons, List.filter_cons, ih]

end TypeMeta

namespace Record

/-- The members of a written record. -/
def members (r : Record) : Members := r.toJson.members?.getD []

theorem toJson_eq (r : Record) : r.toJson = .object r.members := rfl

/-- A record that is read of members in key order has these, but for its type and its metadata. -/
theorem of_ofJson? {ms : Members} (hord : ms.Ordered) {r : Record} (h : ofJson? (.object ms) = some r) :
    (r.type, r.data) = TypeMeta.take none none (ms.without ["metadata"]) ∧
      ∃ m, ObjectMeta.ofJson? r.metadata.toJson = some m := by
  simp only [ofJson?, Option.bind_eq_bind, Option.bind_eq_some_iff] at h
  obtain ⟨ms', hstrict, metadata, hmetadata, hr⟩ := h
  obtain ⟨rfl, -⟩ := Members.of_strictMembers? hstrict
  cases hr
  have hdata : Members.Ordered (TypeMeta.take none none (Members.without ms' ["metadata"])).2 :=
    (hord.filter _).sublist (TypeMeta.take_sublist _)
  refine ⟨by rw [Members.ofList_of_ordered hdata], ?_⟩
  rcases Members.of_read hmetadata with rfl | ⟨j, hj⟩
  · have hempty : ({} : ObjectMeta).Rereads := ⟨by simp, by simp, by simp, by simp, by simp⟩
    exact ⟨{}, ObjectMeta.ofJson?_toJson hempty⟩
  · exact ⟨_, ObjectMeta.reread_inSeconds hj⟩

private theorem filter_members_of_type {r r' : Record} (htype : r'.type = r.type) {key : String}
    (hkey : key ≠ "metadata") (hdata : r'.data.filter (·.1 == key) = r.data.filter (·.1 == key)) :
    r'.members.filter (·.1 == key) = r.members.filter (·.1 == key) := by
  simp only [members, toJson, Json.members?, Option.getD_some, List.filter_append, htype, hdata]
  simp [hkey.symm]

private theorem filter_members_of_data (r : Record) {key : String} (hkey : key ∉ ["apiVersion", "kind", "metadata"]) :
    r.members.filter (·.1 == key) = r.data.filter (·.1 == key) := by
  simp only [List.mem_cons, List.not_mem_nil, or_false, not_or] at hkey
  obtain ⟨hversion, hkind, hmetadata⟩ := hkey
  cases ht : r.type <;>
    simp [members, toJson, Json.members?, ht, Ne.symm hversion, Ne.symm hkind, Ne.symm hmetadata]

private theorem filter_metadata {r : Record} (h : r.data.Avoids ["metadata"]) :
    r.members.filter (·.1 == "metadata") = Members.optional "metadata" (some r.metadata.toJson) := by
  have hdata : r.data.filter (·.1 == "metadata") = [] := h.filter_eq (by simp)
  cases ht : r.type <;> simp [members, toJson, Json.members?, ht, hdata]

/-- The data of a record that is read of members in key order. -/
theorem data_of_ofJson? {ms : Members} (hord : ms.Ordered) {r : Record} (h : ofJson? (.object ms) = some r) :
    r.data.Avoids ["metadata"] ∧
      ∀ key ∉ ["apiVersion", "kind", "metadata"], r.data.filter (·.1 == key) = ms.filter (·.1 == key) := by
  have hdata : r.data = (TypeMeta.take none none (ms.without ["metadata"])).2 := congrArg Prod.snd (of_ofJson? hord h).1
  refine ⟨fun m hm => ?_, fun key hkey => ?_⟩
  · rw [hdata] at hm
    exact Members.avoids_without ms _ m ((TypeMeta.take_sublist _).subset hm)
  · simp only [List.mem_cons, List.not_mem_nil, or_false, not_or] at hkey
    obtain ⟨hversion, hkind, hmetadata⟩ := hkey
    rw [hdata, TypeMeta.filter_take hversion hkind]
    exact Members.filter_key_filter (q := fun k => !List.contains ["metadata"] k) (by simpa using hmetadata) ms

/-- Records that are read of members which agree in what is spared agree in it, too. -/
private theorem filter_spared {ms ms' : Members} (hord : ms.Ordered) (hord' : ms'.Ordered) {r r' : Record}
    (h : ofJson? (.object ms) = some r) (h' : ofJson? (.object ms') = some r')
    (hsame : ms'.filter (Json.spared.contains ·.1) = ms.filter (Json.spared.contains ·.1)) :
    ∀ key ∈ Json.spared, r'.members.filter (·.1 == key) = r.members.filter (·.1 == key) := by
  -- The type is taken of what is spared alone, and so is the rest of it.
  have htaken {ms : Members} (hord : ms.Ordered) {r : Record} (h : ofJson? (.object ms) = some r) :
      (r.type, r.data.filter (Json.spared.contains ·.1)) =
        TypeMeta.take none none (Members.without (ms.filter (Json.spared.contains ·.1)) ["metadata"]) := by
    have hcomm : Members.without (ms.filter (Json.spared.contains ·.1)) ["metadata"] =
        (ms.without ["metadata"]).filter (Json.spared.contains ·.1) := List.filter_comm ..
    obtain ⟨htype, hdata⟩ := Prod.mk.inj (of_ofJson? hord h).1
    rw [hcomm, TypeMeta.take_filter (q := Json.spared.contains) (by decide) (by decide), ← htype, ← hdata]
  obtain ⟨htype, hdata⟩ : r'.type = r.type ∧
      r'.data.filter (Json.spared.contains ·.1) = r.data.filter (Json.spared.contains ·.1) :=
    Prod.mk.inj ((htaken hord' h').trans (by rw [hsame, htaken hord h]))
  intro key hkey
  have hmetadata : key ≠ "metadata" := by
    rintro rfl
    exact absurd hkey (by decide)
  refine filter_members_of_type htype hmetadata ?_
  have hq : Json.spared.contains key = true := by simpa using hkey
  rw [← Members.filter_key_filter hq, hdata, Members.filter_key_filter hq]

private theorem filter_spec {ms : Members} (hord : ms.Ordered) {r : Record} (h : ofJson? (.object ms) = some r) :
    r.members.filter (·.1 == "spec") = Members.optional "spec" (ms.get? "spec") := by
  rw [filter_members_of_data r (by simp), (data_of_ofJson? hord h).2 "spec" (by simp), hord.filter_key]

end Record

/-- What is read of the chart in a desired state depends on the member with its key. -/
private theorem ReleaseSpec.ofJson?_of_filter {spec spec' : Members} {s : ReleaseSpec}
    (h : ofJson? (.object spec) = some s)
    (hord : spec'.Ordered) (hchart : spec'.filter (·.1 == "chart") = spec.filter (·.1 == "chart")) :
    ∃ s', ofJson? (.object spec') = some s' ∧ s'.chart = s.chart := by
  simp only [ofJson?, Option.bind_eq_bind, Option.bind_eq_some_iff] at h
  obtain ⟨ms, hstrict, chart, hread, _, -, hs⟩ := h
  obtain ⟨rfl, -⟩ := Members.of_strictMembers? hstrict
  cases hs
  have hstrict' : Json.strictMembers? ["chart", "values"] (.object spec') = some spec' :=
    Members.strictMembers?_object fun key _ => ⟨_, hord.filter_key key⟩
  have hread' : spec'.nullable "chart" ChartTemplate.ofJson? = some chart := by
    rw [Members.nullable, Members.read, hchart]
    exact hread
  have hvalues : spec'.nullable "values" Json.any = some (Members.dropNull (spec'.get? "values")) :=
    Members.nullable_dropNull (hord.filter_key "values")
  refine ⟨⟨chart, Members.dropNull (spec'.get? "values"), spec'.without ["chart", "values"]⟩, ?_, rfl⟩
  simp only [ofJson?, hstrict', hread', hvalues, Option.bind_eq_bind, Option.bind_some]
  rfl

namespace Release

/-- The members of a release. -/
def keys : List String := ["apiVersion", "kind", "metadata", "spec", "status"]

/-- A release is what is read of some members. -/
structure ReadOf (r : Release) (ms : Members) : Prop where
  once : ∀ key ∈ keys, (ms.filter (·.1 == key)).length ≤ 1
  apiVersion : ms.read "apiVersion" Json.string? "" = some r.apiVersion
  kind : ms.read "kind" Json.string? "" = some r.kind
  metadata : ms.read "metadata" ObjectMeta.ofJson? {} = some r.metadata
  spec : ms.read "spec" ReleaseSpec.ofJson? {} = some r.spec
  status : ms.nullable "status" ReleaseStatus.ofJson? = some r.status

/-- A release is read of a record member by member. -/
theorem ofRecord_eq_ok_iff {record : Record} {r : Release} : ofRecord record = .ok r ↔ r.ReadOf record.members := by
  rw [ofRecord, Record.toJson_eq]
  constructor
  · intro h
    split at h
    · rename_i r' hr
      cases h
      simp only [ofJson?, Option.bind_eq_bind, Option.bind_eq_some_iff] at hr
      obtain ⟨ms, hstrict, version, hversion, kind, hkind, m, hm, s, hs, status, hstatus, hr⟩ := hr
      obtain ⟨rfl, hone⟩ := Members.of_strictMembers? hstrict
      cases hr
      exact ⟨hone, hversion, hkind, hm, hs, hstatus⟩
    · cases h
  · intro h
    have hstrict : Json.strictMembers? keys (.object record.members) = some record.members :=
      Members.strictMembers?_object fun key hkey => ⟨_, Members.filter_eq_optional_get? (h.once key hkey)⟩
    have hread : ofJson? (.object record.members) = some r := by
      rw [ofJson?, show ["apiVersion", "kind", "metadata", "spec", "status"] = keys from rfl, hstrict]
      simp only [h.apiVersion, h.kind, h.metadata, h.spec, h.status, Option.bind_eq_bind, Option.bind_some]
      rfl
    rw [hread]

/-- What is read of a release depends on the members with its keys. -/
theorem ReadOf.of_filter {ms ms' : Members} {r : Release} (h : r.ReadOf ms)
    (hsame : ∀ key ∈ Json.spared, ms'.filter (·.1 == key) = ms.filter (·.1 == key)) {metadata spec : Json}
    {m : ObjectMeta} {s : ReleaseSpec}
    (hmetadata : ms'.filter (·.1 == "metadata") = Members.optional "metadata" (some metadata))
    (hm : ObjectMeta.ofJson? metadata = some m)
    (hspec : ms'.filter (·.1 == "spec") = Members.optional "spec" (some spec))
    (hs : ReleaseSpec.ofJson? spec = some s) : ReadOf { r with metadata := m, spec := s } ms' := by
  have hread {α : Type} {key : String} (hkey : key ∈ Json.spared) (f : Json → Option α) (default : α) :
      ms'.read key f default = ms.read key f default := by
    rw [Members.read, hsame key hkey, Members.read]
  have honce {key : String} (hkey : key ∈ Json.spared) (hkey' : key ∈ keys) : (ms'.filter (·.1 == key)).length ≤ 1 := by
    rw [hsame key hkey]
    exact h.once key hkey'
  exact {
    once := by
      intro key hkey
      simp only [keys, List.mem_cons, List.not_mem_nil, or_false] at hkey
      rcases hkey with rfl | rfl | rfl | rfl | rfl
      · exact honce (by decide) (by decide)
      · exact honce (by decide) (by decide)
      · exact hmetadata ▸ Members.length_optional_le _ _
      · exact hspec ▸ Members.length_optional_le _ _
      · exact honce (by decide) (by decide)
    apiVersion := (hread (by decide) _ _).trans h.apiVersion
    kind := (hread (by decide) _ _).trans h.kind
    metadata := (Members.read_of_filter_some _ _ hmetadata).trans hm
    spec := (Members.read_of_filter_some _ _ hspec).trans hs
    status := (hread (by decide) _ _).trans h.status }

/-- The desired state that a release with a chart was read of. -/
private theorem object_of_ofRecord {ms : Members} (hord : ms.Ordered) {record : Record} {r : Release}
    (hrecord : Record.ofJson? (.object ms) = some record) (hr : ofRecord record = .ok r) {t : ChartTemplate}
    (ht : r.spec.chart = some t) :
    ∃ spec : Members, ms.get? "spec" = some (.object spec) ∧ ReleaseSpec.ofJson? (.object spec) = some r.spec := by
  have hread := (ofRecord_eq_ok_iff.mp hr).spec
  rw [Members.read_of_filter _ _ (Record.filter_spec hord hrecord)] at hread
  cases hfound : ms.get? "spec" with
  | none =>
    rw [hfound] at hread
    rw [← Option.some.inj hread] at ht
    cases ht
  | some j =>
    rw [hfound] at hread
    cases j with
    | object spec => exact ⟨spec, rfl, hread⟩
    | _ => cases hread

/-- A record that is left by a merge patch which spares its chart is still a release, and has the same chart. -/
theorem ofRecord_of_merge {o : StoredObject} {patch : Members} (hspares : Json.SparesChart patch)
    {record merged : Record} {r : Release} {t : ChartTemplate} {version : String}
    (hrecord : Record.ofJson? o.toJson = some record) (hr : ofRecord record = .ok r) (ht : r.spec.chart = some t)
    (hmerged : Record.ofJson? (MemoryStore.withVersion version (o.toJson.merge (.object patch))) = some merged) :
    ∃ r', ofRecord merged = .ok r' ∧ r'.spec.chart = r.spec.chart := by
  obtain ⟨ms, hord, hspecOrd⟩ := o
  rw [StoredObject.toJson] at hrecord hmerged
  obtain ⟨spec, hspec, hs⟩ := object_of_ofRecord hord hrecord hr ht
  obtain ⟨spec', hspec', hordSpec, hchart⟩ := hspares.mergeMembers hspec (hspecOrd spec hspec)
  obtain ⟨s', hs', hchart'⟩ := ReleaseSpec.ofJson?_of_filter hs hordSpec hchart
  -- The new version is set among the metadata, so that it changes neither the desired state nor what is spared.
  obtain ⟨ms', hms', hord', hsame, hspec''⟩ : ∃ ms' : Members,
      MemoryStore.withVersion version (Json.merge (.object ms) (.object patch)) = .object ms' ∧ ms'.Ordered ∧
      ms'.filter (Json.spared.contains ·.1) = ms.filter (Json.spared.contains ·.1) ∧
      ms'.get? "spec" = some (.object spec') := by
    refine ⟨_, rfl, (MemoryStore.ordered_mergeMembers hord patch).set _ _, ?_, ?_⟩
    · rw [Members.filter_set_of_not (q := Json.spared.contains) (by decide)]
      exact Json.filter_mergeMembers (fun m hm => by simpa using hspares.others m hm) ms
    · exact (Members.get?_set_of_ne _ _ (by decide)).trans hspec'
  rw [hms'] at hmerged
  have hmetadata := Record.filter_metadata (Record.data_of_ofJson? hord' hmerged).1
  obtain ⟨m, hm⟩ := (Record.of_ofJson? hord' hmerged).2
  have hspecMerged : merged.members.filter (·.1 == "spec") = Members.optional "spec" (some (.object spec')) := by
    rw [Record.filter_spec hord' hmerged, hspec'']
  have hread := (ofRecord_eq_ok_iff.mp hr).of_filter (Record.filter_spared hord hord' hrecord hmerged hsame) hmetadata
    hm hspecMerged hs'
  exact ⟨_, ofRecord_eq_ok_iff.mpr hread, hchart'⟩

end Release

end AppGateway
