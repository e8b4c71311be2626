import AppGateway.Proofs.Meta.Reread
import AppGateway.Proofs.Time.Reread

/-!
# Metadata settles when it is read once

Times in metadata lose their fractions when they are written, and nothing else is lost.  So whatever is read of written
metadata is read back as it is: `ObjectMeta.rereads_of_ofJson?_toJson`, from the same for its times
(`Timestamp.reread_seconds`) and its field records (`ManagedFields.reread`).
-/

namespace AppGateway

/-- A time that was read of a written time is read back from its whole seconds. -/
theorem Timestamp.reread_member {ms : Members} {key : String} {value : Option Timestamp} {t : Timestamp}
    (hk : ms.filter (·.1 == key) = Members.optional key (value.map fun t => .string t.toSecondsText))
    (h : ms.nullable key Timestamp.ofJson? = some (some t)) : Timestamp.parse t.toSecondsText = some t := by
  obtain ⟨t', -, ht'⟩ := Members.of_nullable_written hk h
  rw [Json.nullable_string, Timestamp.ofJson?_string] at ht'
  obtain ⟨t'', hparse, he⟩ := Option.map_eq_some_iff.mp ht'
  cases he
  exact Timestamp.reread_seconds hparse

/-- A number that was read is read back. -/
theorem Json.reread_member {ms : Members} {key : String} {n : Int}
    (h : ms.nullable key Json.int64? = some (some n)) : (Json.int n).int64? = some n := by
  obtain ⟨j, hj⟩ := Members.of_nullable h
  cases j with
  | number x =>
    cases x with
    | int k fits =>
      rw [Json.int64?, Number.int64?, Option.ite_none_right_eq_some] at hj
      cases hj.2
      rw [Json.int, Number.ofInt_eq fits]
      exact if_pos hj.1
    | real _ => cases hj
  | _ => cases hj

namespace ManagedFields

/-- The members of a written field record. -/
def members (f : ManagedFields) : Members := f.toJson.members?.getD []

private theorem toJson_eq (f : ManagedFields) : f.toJson = .object f.members := rfl

private theorem filter_members (f : ManagedFields) (key : String) :
    f.members.filter (·.1 == key) =
      (Members.optional "apiVersion" (f.apiVersion.map .string)).filter (·.1 == key)
      ++ (Members.optional "fieldsType" (f.fieldsType.map .string)).filter (·.1 == key)
      ++ (Members.optional "fieldsV1" f.fieldsV1).filter (·.1 == key)
      ++ (Members.optional "manager" (f.manager.map .string)).filter (·.1 == key)
      ++ (Members.optional "operation" (f.operation.map .string)).filter (·.1 == key)
      ++ (Members.optional "subresource" (f.subresource.map .string)).filter (·.1 == key)
      ++ (Members.optional "time" (f.time.map fun t => .string t.toSecondsText)).filter (·.1 == key) := by
  simp only [members, toJson, Json.members?, Option.getD_some, List.filter_append]

private theorem filter_time (f : ManagedFields) : f.members.filter (·.1 == "time") =
    Members.optional "time" (f.time.map fun t => .string t.toSecondsText) := by
  simp [filter_members, Members.filter_optional]

/-- A field record is read back as it was written when its fields are no null and its time is read back. -/
theorem ofJson?_toJson {f : ManagedFields} (hfields : f.fieldsV1 ≠ some .null)
    (htime : ∀ t, f.time = some t → Timestamp.parse t.toSecondsText = some t) : ofJson? f.toJson = some f := by
  have apiVersion : f.members.nullable "apiVersion" Json.string? = some f.apiVersion :=
    Members.nullable_text (by simp [filter_members, Members.filter_optional])
  have fieldsType : f.members.nullable "fieldsType" Json.string? = some f.fieldsType :=
    Members.nullable_text (by simp [filter_members, Members.filter_optional])
  have fieldsV1 : f.members.nullable "fieldsV1" Json.any = some f.fieldsV1 :=
    Members.nullable_any hfields (by simp [filter_members, Members.filter_optional])
  have manager : f.members.nullable "manager" Json.string? = some f.manager :=
    Members.nullable_text (by simp [filter_members, Members.filter_optional])
  have operation : f.members.nullable "operation" Json.string? = some f.operation :=
    Members.nullable_text (by simp [filter_members, Members.filter_optional])
  have subresource : f.members.nullable "subresource" Json.string? = some f.subresource :=
    Members.nullable_text (by simp [filter_members, Members.filter_optional])
  have time : f.members.nullable "time" Timestamp.ofJson? = some f.time :=
    Timestamp.nullable_seconds f.filter_time htime
  rw [toJson_eq, ofJson?]
  dsimp only [Json.members?, Option.bind_eq_bind, Option.bind_some]
  rw [apiVersion, fieldsType, fieldsV1, manager, operation, subresource, time]
  rfl

/-- What is read of a written field record is read back as it is. -/
theorem reread {f f' : ManagedFields} (h : ofJson? f.toJson = some f') : ofJson? f'.toJson = some f' := by
  rw [toJson_eq, ofJson?] at h
  simp only [Json.members?, Option.bind_eq_bind, Option.bind_some, Option.bind_eq_some_iff] at h
  obtain ⟨_, -, _, -, fields, hfields, _, -, _, -, _, -, time, htime, h⟩ := h
  cases h
  refine ofJson?_toJson (Members.nullable_any_ne_null hfields) fun t ht => ?_
  rw [show time = some t from ht] at htime
  exact Timestamp.reread_member f.filter_time htime

end ManagedFields

namespace ObjectMeta

/-- What is read of written metadata is read back as it is. -/
theorem rereads_of_ofJson?_toJson {m m' : ObjectMeta} (h : ofJson? m.toJson = some m') : m'.Rereads := by
  have creation : m.members.filter (·.1 == "creationTimestamp") =
      Members.optional "creationTimestamp" (m.creationTimestamp.map fun t => .string t.toSecondsText) := by
    simp [filter_members, Members.filter_optional]
  have deletion : m.members.filter (·.1 == "deletionTimestamp") =
      Members.optional "deletionTimestamp" (m.deletionTimestamp.map fun t => .string t.toSecondsText) := by
    simp [filter_members, Members.filter_optional]
  have managed : m.members.filter (·.1 == "managedFields") =
      Members.optional "managedFields" (m.managedFields.map fun fs => .array (fs.map ManagedFields.toJson)) := by
    simp [filter_members, Members.filter_optional]
  rw [ofJson?_toJson_eq] at h
  simp only [Option.bind_eq_bind, Option.bind_eq_some_iff] at h
  obtain ⟨t₀, hcreation, n₀, hgrace, t₁, hdeletion, n₁, hgeneration, fs₀, hmanaged, h⟩ := h
  cases h
  refine ⟨?_, ?_, ?_, ?_, ?_⟩
  · rintro t rfl
    exact Timestamp.reread_member creation hcreation
  · rintro n rfl
    exact Json.reread_member hgrace
  · rintro t rfl
    exact Timestamp.reread_member deletion hdeletion
  · rintro n rfl
    exact Json.reread_member hgeneration
  · rintro fs rfl
    obtain ⟨written, -, hread⟩ := Members.of_nullable_written managed hmanaged
    obtain ⟨fs', hfs, he⟩ : ∃ fs', (written.map ManagedFields.toJson).mapM ManagedFields.ofJson? = some fs' ∧
        some fs' = some fs := Option.map_eq_some_iff.mp hread
    cases he
    refine forall_of_mapM (fun j hj f hf => ?_) hfs
    obtain ⟨f₀, -, rfl⟩ := List.mem_map.mp hj
    exact ManagedFields.reread hf

end ObjectMeta

end AppGateway
