import AppGateway.Proofs.Mapping
import AppGateway.Proofs.Meta.Seconds
import AppGateway.Proofs.Resource.Decoded

/-!
# Applications can be sent back

A client that writes an application which it has read reads the same application.  An application with times that have
fractions loses these when it is first written, and nothing after that.

* (reading) `Application.ofJson?_toJson`: an application is read back as it was written, when its metadata and its
  conditions are and its values are no null;
* (sent) `Application.rereads_inSeconds`: so is every application that was read, in whole seconds;
* (shown) `ResourceDefinition.toApplication_rereads`: so is every application that is shown of a release;
* (main result) `Application.sent_back_unchanged`.
-/

namespace AppGateway

namespace Members

/-- A text that is left out when it is empty is read back. -/
theorem read_text {ms : Members} {key text : String}
    (h : ms.filter (·.1 == key) = optional key (if text.isEmpty then none else some (.string text))) :
    ms.read key Json.string? "" = some text := by
  rw [read_of_filter _ _ h]
  by_cases hempty : text = ""
  · simp [hempty]
  · simp [hempty, Json.string?]

/-- A list that is left out when it is empty is read back, when its items are. -/
private theorem read_list {α : Type} {ms : Members} {key : String} {xs : List α} {write : α → Json}
    {read : Json → Option α}
    (h : ms.filter (·.1 == key) =
      optional key (if xs.isEmpty then none else some (.array (xs.map write))))
    (hread : ∀ x ∈ xs, read (write x) = some x) : ms.read key (Json.listOf read) [] = some xs := by
  rw [read_of_filter _ _ h]
  cases xs with
  | nil => rfl
  | cons x xs => exact Json.listOf_array hread

end Members

namespace ApplicationStatus

/-- The members of a written status. -/
def members (s : ApplicationStatus) : Members := s.toJson.members?.getD []

private theorem toJson_eq (s : ApplicationStatus) : s.toJson = .object s.members := rfl

private theorem filter_members (s : ApplicationStatus) (key : String) :
    s.members.filter (·.1 == key) =
      (Members.optional "version" (if s.version.isEmpty then none else some (.string s.version))).filter (·.1 == key)
      ++ (Members.optional "conditions" (if s.conditions.isEmpty then none
        else some (.array (s.conditions.map Condition.toJson)))).filter (·.1 == key) := by
  rw [← List.filter_append]
  rfl

/-- A status is read back as it was written when its conditions are. -/
theorem ofJson?_toJson {s : ApplicationStatus}
    (h : ∀ c ∈ s.conditions, Condition.ofJson? c.toJson = some c) : ofJson? s.toJson = some s := by
  have hversion : s.members.filter (·.1 == "version") =
      Members.optional "version" (if s.version.isEmpty then none else some (.string s.version)) := by
    simp [filter_members, Members.filter_optional]
  have hconditions : s.members.filter (·.1 == "conditions") = Members.optional "conditions"
      (if s.conditions.isEmpty then none else some (.array (s.conditions.map Condition.toJson))) := by
    simp [filter_members, Members.filter_optional]
  have hfields : Json.fields? fields (.object s.members) = some s.members := by
    refine Members.strictMembers?_object fun n hn => ?_
    simp only [fields, List.mem_cons, List.not_mem_nil, or_false] at hn
    rcases hn with rfl | rfl
    · exact ⟨_, hversion⟩
    · exact ⟨_, hconditions⟩
  rw [toJson_eq, ofJson?, hfields]
  simp only [Members.read_text hversion, Members.read_list hconditions h, Option.bind_eq_bind, Option.bind_some]
  rfl

/-- The conditions of a status that was read are each read back, whatever their status texts and their times were. -/
private theorem conditions_reread {j : Json} {s : ApplicationStatus} (h : ofJson? j = some s) :
    ∀ c ∈ s.conditions, Condition.ofJson? c.toJson = some c := by
  simp only [ofJson?, Option.bind_eq_bind, Option.bind_eq_some_iff] at h
  obtain ⟨_, -, _, -, conditions, hconditions, h⟩ := h
  cases h
  rcases Members.of_read hconditions with rfl | ⟨value, hvalue⟩
  · intro c hc
    cases hc
  · obtain ⟨items, -, hitems⟩ := Option.bind_eq_some_iff.mp hvalue
    exact forall_of_mapM (fun _ _ _ hread => Condition.reread hread) hitems

end ApplicationStatus

namespace Application

/-- The members of a written application. -/
def members (app : Application) : Members := app.toJson.members?.getD []

private theorem toJson_eq (app : Application) : app.toJson = .object app.members := rfl

private theorem filter_members (app : Application) (key : String) :
    app.members.filter (·.1 == key) =
      (Members.optional "apiVersion" (some (.string app.apiVersion))).filter (·.1 == key)
      ++ (Members.optional "kind" (some (.string app.kind))).filter (·.1 == key)
      ++ (Members.optional "metadata" (some app.metadata.toJson)).filter (·.1 == key)
      ++ (Members.optional "spec" app.spec).filter (·.1 == key)
      ++ (Members.optional "appVersion"
        (if app.appVersion.isEmpty then none else some (.string app.appVersion))).filter (·.1 == key)
      ++ (Members.optional "status" (some app.status.toJson)).filter (·.1 == key) := by
  simp only [← List.filter_append]
  rfl

/-- The parts of an application are read back as they are written. -/
structure Rereads (app : Application) : Prop where
  metadata : app.metadata.Rereads
  spec : app.spec ≠ some .null
  conditions : ∀ c ∈ app.status.conditions, Condition.ofJson? c.toJson = some c

variable {app : Application}

/-- An application is read back as it was written. -/
theorem ofJson?_toJson (h : app.Rereads) : ofJson? app.toJson = some app := by
  have hapiVersion : app.members.filter (·.1 == "apiVersion") =
      Members.optional "apiVersion" (some (.string app.apiVersion)) := by
    simp [filter_members, Members.filter_optional]
  have hkind : app.members.filter (·.1 == "kind") = Members.optional "kind" (some (.string app.kind)) := by
    simp [filter_members, Members.filter_optional]
  have hmetadata : app.members.filter (·.1 == "metadata") =
      Members.optional "metadata" (some app.metadata.toJson) := by
    simp [filter_members, Members.filter_optional]
  have hspec : app.members.filter (·.1 == "spec") = Members.optional "spec" app.spec := by
    simp [filter_members, Members.filter_optional]
  have happVersion : app.members.filter (·.1 == "appVersion") = Members.optional "appVersion"
      (if app.appVersion.isEmpty then none else some (.string app.appVersion)) := by
    simp [filter_members, Members.filter_optional]
  have hstatus : app.members.filter (·.1 == "status") = Members.optional "status" (some app.status.toJson) := by
    simp [filter_members, Members.filter_optional]
  have hfields : Json.fields? fields (.object app.members) = some app.members := by
    refine Members.strictMembers?_object fun n hn => ?_
    simp only [fields, List.mem_cons, List.not_mem_nil, or_false] at hn
    rcases hn with rfl | rfl | rfl | rfl | rfl | rfl
    · exact ⟨_, hapiVersion⟩
    · exact ⟨_, hkind⟩
    · exact ⟨_, hmetadata⟩
    · exact ⟨_, hspec⟩
    · exact ⟨_, happVersion⟩
    · exact ⟨_, hstatus⟩
  have hapiVersion' : app.members.read "apiVersion" Json.string? "" = some app.apiVersion :=
    Members.read_of_filter_some _ _ hapiVersion
  have hkind' : app.members.read "kind" Json.string? "" = some app.kind := Members.read_of_filter_some _ _ hkind
  have hmetadata' : app.members.read "metadata" ObjectMeta.ofJson? {} = some app.metadata :=
    (Members.read_of_filter_some _ _ hmetadata).trans (ObjectMeta.ofJson?_toJson h.metadata)
  have hspec' : app.members.nullable "spec" Json.any = some app.spec := Members.nullable_any h.spec hspec
  have hstatus' : app.members.read "status" ApplicationStatus.ofJson? {} = some app.status :=
    (Members.read_of_filter_some _ _ hstatus).trans (ApplicationStatus.ofJson?_toJson h.conditions)
  rw [toJson_eq, ofJson?, hfields]
  simp only [hapiVersion', hkind', hmetadata', hspec', Members.read_text happVersion, hstatus', Option.bind_eq_bind,
    Option.bind_some]
  rfl

/-! ### Applications that were read -/

/-- An application whose metadata is in whole seconds; the times of conditions keep their fractions. -/
def inSeconds (app : Application) : Application := { app with metadata := app.metadata.inSeconds }

private theorem toJson_inSeconds (app : Application) : app.inSeconds.toJson = app.toJson := by
  unfold toJson inSeconds
  rw [ObjectMeta.toJson_inSeconds]

/-- An application that was read is read back, its times in whole seconds. -/
theorem rereads_inSeconds {j : Json} (h : ofJson? j = some app) : app.inSeconds.Rereads := by
  have hspec : app.spec ≠ some .null := spec_ne_null h
  simp only [ofJson?, Option.bind_eq_bind, Option.bind_eq_some_iff] at h
  obtain ⟨_, -, _, -, _, -, metadata, hmetadata, _, -, _, -, status, hstatus, h⟩ := h
  cases h
  refine ⟨?_, hspec, ?_⟩
  · rcases Members.of_read hmetadata with rfl | ⟨value, hvalue⟩
    · exact ObjectMeta.rereads_inSeconds (j := .object []) rfl
    · exact ObjectMeta.rereads_inSeconds hvalue
  · rcases Members.of_read hstatus with rfl | ⟨value, hvalue⟩
    · intro c hc
      cases hc
    · exact ApplicationStatus.conditions_reread hvalue

end Application

/-! ### Applications that are shown -/

theorem ResourceDefinition.toApplication_rereads (d : ResourceDefinition) {r : Release} (h : r.Rereads) :
    (d.toApplication r).Rereads where
  metadata := {
    creation := h.metadata.creation
    grace := by rintro n ⟨⟩
    deletion := h.metadata.deletion
    generation := by rintro n ⟨⟩
    managed := by rintro fs ⟨⟩ }
  spec := h.spec.values
  conditions := by
    intro c hc
    have hmem : c ∈ (r.status.map (·.conditions)).getD [] := (List.mem_filter.mp hc).1
    cases hstatus : r.status with
    | none => simp [hstatus] at hmem
    | some s =>
      rw [hstatus] at hmem
      exact ReleaseStatus.conditions_reread (h.status s hstatus) c hmem

namespace Application

/-- An application that was read is written so that it can be read again, as the same application with the times of
its metadata in whole seconds, and to write it again gives the same object.  An application that is shown of a release
is read back as it is. -/
theorem sent_back_unchanged :
    (∀ j app, ofJson? j = some app →
      ofJson? app.toJson = some app.inSeconds ∧ app.inSeconds.toJson = app.toJson) ∧
    ∀ (d : ResourceDefinition) record r, Release.ofRecord record = .ok r →
      ofJson? (d.toApplication r).toJson = some (d.toApplication r) := by
  constructor
  · intro j app h
    have hwritten := app.toJson_inSeconds
    refine ⟨?_, hwritten⟩
    rw [← hwritten]
    exact ofJson?_toJson (rereads_inSeconds h)
  · intro d record r h
    exact ofJson?_toJson (d.toApplication_rereads (Release.rereads_of_ofRecord h))

/-- An application as clients may send it: as an array, a null for its values, a status as an array, a status text that
is unknown, and times with fractions. -/
def foreignApplication : Json :=
  .array [.string "apps.cozystack.io/v1alpha1", .string "Web",
    .object [("creationTimestamp", .string "2025-01-01T02:00:00.75+02:00"), ("name", .string "shop")],
    .null, .string "1",
    .array [.string "1.2.0", .array [.array [.string "Ready", .string "Perhaps", .string "", .string "",
      .string "2025-01-01T02:00:00.5+02:00"]]]]

/-- When it is sent back, the time of its metadata has been cut off, and that of its condition is kept. -/
theorem foreign_application_sent_back :
    ∃ app, ofJson? foreignApplication = some app ∧
      app.metadata.creationTimestamp = some ⟨1735689600, 750000000⟩ ∧
      app.status.conditions = [{ type := "Ready", lastTransitionTime := some ⟨1735689600, 500000000⟩ }] ∧
      ofJson? app.toJson = some app.inSeconds ∧ app.inSeconds.toJson = app.toJson := by
  have hread : (ofJson? foreignApplication).map (fun app => (app.metadata.creationTimestamp, app.status.conditions)) =
      some (some ⟨1735689600, 750000000⟩,
        [{ type := "Ready", lastTransitionTime := some ⟨1735689600, 500000000⟩ }]) := by decide +kernel
  obtain ⟨app, happ, hparts⟩ := Option.map_eq_some_iff.mp hread
  obtain ⟨htime, hconditions⟩ := Prod.mk.inj hparts
  exact ⟨app, happ, htime, hconditions, sent_back_unchanged.1 _ _ happ⟩

end Application

end AppGateway
