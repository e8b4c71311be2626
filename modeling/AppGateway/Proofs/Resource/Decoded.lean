import AppGateway.Proofs.Meta.Decoded
import AppGateway.Proofs.Resource.Reread
import Mathlib.Data.List.Basic

/-!
# Releases settle when they are read once

Reading a release is lenient: conditions that are no conditions are dropped, statuses and times have many forms, and
records may be given as arrays.  Once read, nothing more is lost: a release that was read of a record is written and
read back as it is (`Release.reencoding_loses_nothing`).

* (conditions) `Condition.reread`: a condition keeps its time to the nanosecond;
* (spec) `ReleaseSpec.rereads_of_ofJson?`: no member that is not interpreted has a known key, and the values are no
  null, whatever was read;
* (release) `Release.rereads_of_ofRecord`: metadata has been written before it is read, so that it has settled too.
-/

namespace AppGateway

private theorem ConditionStatus.ofText_toText (s : ConditionStatus) : ofText s.toText = s := by
  cases s <;> decide

namespace Condition

/-- The members of a written condition. -/
def members (c : Condition) : Members := c.toJson.members?.getD []

private theorem toJson_eq (c : Condition) : c.toJson = .object c.members := rfl

private theorem filter_members (c : Condition) (key : String) :
    c.members.filter (·.1 == key) =
      (Members.optional "type" (some (.string c.type))).filter (·.1 == key)
      ++ (Members.optional "status" (some (.string c.status.toText))).filter (·.1 == key)
      ++ (Members.optional "reason" (some (.string c.reason))).filter (·.1 == key)
      ++ (Members.optional "message" (some (.string c.message))).filter (·.1 == key)
      ++ (Members.optional "lastTransitionTime"
        (c.lastTransitionTime.map fun t => .string t.toText)).filter (·.1 == key) := by
  simp only [← List.filter_append]
  rfl

/-- A condition is read back as it was written when its time is. -/
private theorem ofJson?_toJson {c : Condition}
    (htime : ∀ t, c.lastTransitionTime = some t → Timestamp.parse t.toText = some t) : ofJson? c.toJson = some c := by
  have htype : c.members.filter (·.1 == "type") = Members.optional "type" (some (.string c.type)) := by
    simp [filter_members, Members.filter_optional]
  have hstatus : c.members.filter (·.1 == "status") = Members.optional "status" (some (.string c.status.toText)) := by
    simp [filter_members, Members.filter_optional]
  have hreason : c.members.filter (·.1 == "reason") = Members.optional "reason" (some (.string c.reason)) := by
    simp [filter_members, Members.filter_optional]
  have hmessage : c.members.filter (·.1 == "message") = Members.optional "message" (some (.string c.message)) := by
    simp [filter_members, Members.filter_optional]
  have hchanged : c.members.filter (·.1 == "lastTransitionTime") =
      Members.optional "lastTransitionTime" (c.lastTransitionTime.map fun t => .string t.toText) := by
    simp [filter_members, Members.filter_optional]
  have hfields : Json.fields? fields (.object c.members) = some c.members := by
    refine Members.strictMembers?_object fun n hn => ?_
    simp only [fields, List.mem_cons, List.not_mem_nil, or_false] at hn
    rcases hn with rfl | rfl | rfl | rfl | rfl
    · exact ⟨_, htype⟩
    · exact ⟨_, hstatus⟩
    · exact ⟨_, hreason⟩
    · exact ⟨_, hmessage⟩
    · exact ⟨_, hchanged⟩
  have htype' : c.members.read "type" Json.string? "" = some c.type := Members.read_of_filter_some _ _ htype
  have hstatus' : c.members.read "status" (fun j => j.string?.map .ofText) .unknown = some c.status :=
    (Members.read_of_filter_some _ _ hstatus).trans (congrArg some c.status.ofText_toText)
  have hreason' : c.members.read "reason" Json.string? "" = some c.reason := Members.read_of_filter_some _ _ hreason
  have hmessage' : c.members.read "message" Json.string? "" = some c.message :=
    Members.read_of_filter_some _ _ hmessage
  have hchanged' : c.members.nullable "lastTransitionTime" Timestamp.ofJson? = some c.lastTransitionTime := by
    refine Members.nullable_of_reread hchanged fun t ht => ?_
    rw [Json.nullable_string, Timestamp.ofJson?_string, htime t ht, Option.map_some]
  rw [toJson_eq, ofJson?, hfields]
  simp only [htype', hstatus', hreason', hmessage', hchanged', Option.bind_eq_bind, Option.bind_some]
  rfl

/-- A condition that was read is read back, its time to the nanosecond. -/
theorem reread {j : Json} {c : Condition} (h : ofJson? j = some c) : ofJson? c.toJson = some c := by
  simp only [ofJson?, Option.bind_eq_bind, Option.bind_eq_some_iff] at h
  obtain ⟨_, -, _, -, _, -, _, -, _, -, time, htime, h⟩ := h
  cases h
  refine ofJson?_toJson ?_
  rintro t rfl
  obtain ⟨value, hvalue⟩ := Members.of_nullable htime
  obtain ⟨text, -, hparse⟩ := Option.bind_eq_some_iff.mp hvalue
  exact Timestamp.reread_text hparse

end Condition

namespace ReleaseStatus

/-- Conditions that are each read back make an observed state that is. -/
private theorem ofJson?_toJson {s : ReleaseStatus} (h : ∀ c ∈ s.conditions, Condition.ofJson? c.toJson = some c) :
    ofJson? s.toJson = some s := by
  have hconditions : (s.conditions.map Condition.toJson).filterMap Condition.ofJson? = s.conditions := by
    rw [List.filterMap_map]
    exact (List.filterMap_congr h).trans List.filterMap_some
  obtain ⟨revision, conditions⟩ := s
  simp only at hconditions
  simp [ofJson?, toJson, Json.fields?, Members.read, conditions?, Json.array?, Json.string?, hconditions]

/-- The conditions of a status that was read are each read back. -/
theorem conditions_reread {j : Json} {s : ReleaseStatus} (h : ofJson? j = some s) :
    ∀ c ∈ s.conditions, Condition.ofJson? c.toJson = some c := by
  simp only [ofJson?, Option.bind_eq_bind, Option.bind_eq_some_iff] at h
  obtain ⟨_, -, _, -, conditions, hconditions, h⟩ := h
  cases h
  intro c (hc : c ∈ conditions)
  rcases Members.of_read hconditions with rfl | ⟨value, hvalue⟩
  · cases hc
  · obtain ⟨items, -, rfl⟩ := Option.map_eq_some_iff.mp hvalue
    obtain ⟨item, -, hitem⟩ := List.mem_filterMap.mp hc
    exact Condition.reread hitem

theorem reread {j : Json} {s : ReleaseStatus} (h : ofJson? j = some s) : ofJson? s.toJson = some s :=
  ofJson?_toJson (conditions_reread h)

end ReleaseStatus

theorem Chart.rereads_of_ofJson? {j : Json} {c : Chart} (h : ofJson? j = some c) : c.Rereads := by
  simp only [ofJson?, Option.bind_eq_bind, Option.bind_eq_some_iff] at h
  obtain ⟨ms, -, _, -, _, -, _, -, _, -, h⟩ := h
  cases h
  exact Members.avoids_without ms known

theorem ChartTemplate.rereads_of_ofJson? {j : Json} {t : ChartTemplate} (h : ofJson? j = some t) : t.Rereads := by
  simp only [ofJson?, Option.bind_eq_bind, Option.bind_eq_some_iff] at h
  obtain ⟨ms, -, chart, hchart, h⟩ := h
  cases h
  refine ⟨?_, Members.avoids_without ms _⟩
  rcases Members.of_read hchart with rfl | ⟨value, hvalue⟩
  · exact Members.avoids_nil _
  · exact Chart.rereads_of_ofJson? hvalue

theorem ReleaseSpec.rereads_of_ofJson? {j : Json} {s : ReleaseSpec} (h : ofJson? j = some s) : s.Rereads := by
  simp only [ofJson?, Option.bind_eq_bind, Option.bind_eq_some_iff] at h
  obtain ⟨ms, -, template, htemplate, values, hvalues, h⟩ := h
  cases h
  refine ⟨?_, Members.nullable_any_ne_null hvalues, Members.avoids_without ms _⟩
  rintro t rfl
  obtain ⟨value, hvalue⟩ := Members.of_nullable htemplate
  exact ChartTemplate.rereads_of_ofJson? hvalue

namespace Release

/-- A release that was read of a record is read back as it was written. -/
theorem rereads_of_ofRecord {record : Record} {r : Release} (h : ofRecord record = .ok r) : r.Rereads := by
  have hmetadata : r.metadata.Rereads := ObjectMeta.rereads_of_ofJson?_toJson (metadata_of_ofRecord h)
  rw [ofRecord] at h
  split at h
  · rename_i r' hr
    cases h
    simp only [ofJson?, Option.bind_eq_bind, Option.bind_eq_some_iff] at hr
    obtain ⟨_, -, _, -, _, -, _, -, spec, hspec, status, hstatus, hr⟩ := hr
    cases hr
    refine ⟨hmetadata, ?_, ?_⟩
    · rcases Members.of_read hspec with rfl | ⟨value, hvalue⟩
      · exact ⟨by rintro t ⟨⟩, by simp, Members.avoids_nil _⟩
      · exact ReleaseSpec.rereads_of_ofJson? hvalue
    · rintro s rfl
      obtain ⟨value, hvalue⟩ := Members.of_nullable hstatus
      exact ReleaseStatus.reread hvalue
  · cases h

/-- A release that was read of a record can be written, and what is read of the written record is the same release. -/
theorem reencoding_loses_nothing {record : Record} {r : Release} (h : ofRecord record = .ok r) :
    ∃ record', r.toRecord = .ok record' ∧ ofRecord record' = .ok r :=
  ⟨r.toStored, toRecord_eq (rereads_of_ofRecord h), ofRecord_toStored (rereads_of_ofRecord h)⟩

/-- A record as other writers leave it: a source as an array, an unknown member, a status as an array, a condition that
is none, and times with fractions. -/
def foreignRecord : Record where
  metadata := { name := some "myapp-shop", creationTimestamp := some ⟨1735689600, 123456789⟩ }
  data := [
    ("kind", .string "HelmRelease"),
    ("spec", .object [
      ("chart", .object [("spec", .object [
        ("chart", .null),
        ("interval", .string "5m"),
        ("sourceRef", .array [.string "HelmRepository"])])]),
      ("suspend", .bool true),
      ("values", .null)]),
    ("status", .array [.string "1.2.0", .array [
      .object [
        ("type", .string "Ready"),
        ("status", .string "Perhaps"),
        ("lastTransitionTime", .string "2025-01-01T02:00:00.5+02:00")],
      .string "Ready"]])]

/-- What is read of the status of the record. -/
def foreignStatus : ReleaseStatus where
  lastAttemptedRevision := "1.2.0"
  conditions := [{ type := "Ready", lastTransitionTime := some ⟨1735689600, 500000000⟩ }]

/-- A release with members, conditions and a status of others is written and read as it was. -/
theorem foreign_release_reencoded :
    ∃ r, ofRecord foreignRecord = .ok r ∧ r.status = some foreignStatus ∧
      ∃ record', r.toRecord = .ok record' ∧ ofRecord record' = .ok r := by
  have hread : (ofRecord foreignRecord).toOption.bind (·.status) = some foreignStatus := by decide +kernel
  cases hr : ofRecord foreignRecord with
  | ok r =>
    rw [hr] at hread
    exact ⟨r, rfl, hread, reencoding_loses_nothing hr⟩
  | error fault =>
    rw [hr] at hread
    cases hread

end Release

end AppGateway
