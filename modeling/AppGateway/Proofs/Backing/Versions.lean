import AppGateway.Proofs.Backing.Store
import AppGateway.Proofs.Meta.Reread

/-!
# Versions of stored objects

* (writing) `storedVersion_withVersion`: an object that was given a version has that version;
* (reading) `resourceVersion_of_ofJson?`: the version of an object is the one of the record that is read from it, as
  long as its metadata has its members in key order (`Tidy`); setting versions and merging keep it so.
-/

namespace AppGateway

namespace MemoryStore

theorem asRecord_ok (j : Json) :
    asRecord (.ok j) = match Record.ofJson? j with
      | some record => .ok record
      | none => .error .unreadable := rfl

private theorem metadataText_object (ms : Members) (key : String) :
    metadataText (.object ms) key = (((ms.get? "metadata").bind (·.member? key)).bind Json.string?).getD "" := rfl

@[simp] theorem storedVersion_withVersion (v : String) (j : Json) : storedVersion (withVersion v j) = v := by
  rw [storedVersion, withVersion, metadataText_object, Members.get?_set_self]
  simp [Json.member?, Json.string?]

private theorem get?_metadata_toJson (r : Record) :
    ∃ ms : Members, r.toJson = .object ms ∧ ms.get? "metadata" = some r.metadata.toJson := by
  refine ⟨_, rfl, ?_⟩
  cases r.type <;> simp [Members.get?_cons]

/-- A text among the metadata of a record is found in the written record. -/
theorem metadataText_toJson (r : Record) {key : String} {text : Option String}
    (h : r.metadata.members.get? key = text.map .string) : metadataText r.toJson key = text.getD "" := by
  obtain ⟨ms, hms, hget⟩ := get?_metadata_toJson r
  rw [hms, metadataText_object, hget, Option.bind_some, ObjectMeta.toJson_eq, Json.member?, h]
  cases text <;> rfl

theorem name_toJson (r : Record) : metadataText r.toJson "name" = r.name :=
  metadataText_toJson r (ObjectMeta.get?_name _)

theorem ns_toJson (r : Record) : metadataText r.toJson "namespace" = r.metadata.ns.getD "" :=
  metadataText_toJson r (ObjectMeta.get?_ns _)

theorem resourceVersion_toJson (r : Record) :
    metadataText r.toJson "resourceVersion" = r.metadata.resourceVersion.getD "" :=
  metadataText_toJson r (ObjectMeta.get?_resourceVersion _)

/-- The metadata among the members of an object, if it is an object at all, has its members in key order. -/
def TidyMembers (ms : Members) : Prop :=
  ∀ metadata, ms.get? "metadata" = some (.object metadata) → Members.Ordered metadata

/-- The metadata of an object has its members in key order. -/
def Tidy (j : Json) : Prop := TidyMembers (j.members?.getD [])

private theorem tidyMembers_nil : TidyMembers [] := by simp [TidyMembers, Members.get?]

private theorem tidyMembers_set {ms : Members} (h : TidyMembers ms) {key : String} {v : Json}
    (hv : key = "metadata" → ∀ metadata, v = .object metadata → Members.Ordered metadata) :
    TidyMembers (ms.set key v) := by
  intro metadata hm
  by_cases hk : key = "metadata"
  · subst hk
    rw [Members.get?_set_self] at hm
    exact hv rfl metadata (Option.some.inj hm)
  · rw [Members.get?_set_of_ne _ _ (Ne.symm hk)] at hm
    exact h metadata hm

private theorem tidyMembers_erase {ms : Members} (h : TidyMembers ms) (key : String) : TidyMembers (ms.erase key) := by
  intro metadata hm
  by_cases hk : key = "metadata"
  · subst hk
    rw [Members.get?_erase_self] at hm
    cases hm
  · rw [Members.get?_erase_of_ne _ (Ne.symm hk)] at hm
    exact h metadata hm

/-- A written record is tidy. -/
theorem tidy_toJson (r : Record) : Tidy r.toJson := by
  obtain ⟨ms, hms, hget⟩ := get?_metadata_toJson r
  intro metadata hm
  rw [hms, Json.members?, Option.getD_some, hget, ObjectMeta.toJson_eq] at hm
  cases hm
  exact r.metadata.members_ordered

/-- The metadata of an object that is tidy is in key order, and no metadata is. -/
theorem Tidy.metadata {ms : Members} (h : TidyMembers ms) :
    Members.Ordered (((ms.get? "metadata").bind Json.members?).getD []) := by
  cases hm : ms.get? "metadata" with
  | none => exact List.Pairwise.nil
  | some j =>
    cases j with
    | object metadata => exact h metadata hm
    | _ => exact List.Pairwise.nil

theorem tidy_withVersion {j : Json} (h : Tidy j) (v : String) : Tidy (withVersion v j) := by
  refine tidyMembers_set h fun _ metadata hm => ?_
  cases hm
  exact (Tidy.metadata h).set _ _

theorem ordered_mergeMembers {target : Members} (h : target.Ordered) (patch : Members) :
    Members.Ordered (Json.mergeMembers target patch) := by
  induction patch generalizing target with
  | nil => exact h
  | cons m rest ih =>
    obtain ⟨key, p⟩ := m
    cases p with
    | null => exact ih (h.erase key)
    | _ => exact ih (h.set _ _)

/-- Merging into metadata in key order gives metadata in key order. -/
private theorem ordered_merge {target : Option Json}
    (h : ∀ metadata, target = some (.object metadata) → Members.Ordered metadata) (p : Json) (metadata : Members)
    (hm : Json.merge (target.getD .null) p = .object metadata) : Members.Ordered metadata := by
  cases p with
  | object patch =>
    rw [Json.merge] at hm
    cases hm
    refine ordered_mergeMembers ?_ patch
    rcases target with _ | (_ | _ | _ | _ | _ | ms)
    case some.object => exact h ms rfl
    all_goals exact List.Pairwise.nil
  | _ => cases hm

private theorem tidyMembers_mergeMembers {target : Members} (h : TidyMembers target) (patch : Members) :
    TidyMembers (Json.mergeMembers target patch) := by
  induction patch generalizing target with
  | nil => exact h
  | cons m rest ih =>
    obtain ⟨key, p⟩ := m
    cases p with
    | null => exact ih (tidyMembers_erase h key)
    -- What is put under metadata is itself merged, member by member.
    | _ =>
      refine ih (tidyMembers_set h fun hk => ?_)
      subst hk
      exact ordered_merge h _

theorem tidy_merge {j : Json} (h : Tidy j) (document : Json) : Tidy (j.merge document) := by
  cases document with
  | object patch => exact tidyMembers_mergeMembers h patch
  | _ => exact tidyMembers_nil

private theorem text_of_nullable {value : Option Json} {text : Option String}
    (h : value.elim (some none) (Json.nullable Json.string?) = some text) :
    text.getD "" = (value.bind Json.string?).getD "" := by
  cases value with
  | none =>
    cases h
    rfl
  | some j =>
    cases j <;> cases h <;> rfl

/-- The version of a tidy object is the one that is read in its metadata. -/
theorem resourceVersion_of_ofJson? {j : Json} {record : Record} (h : Tidy j) (hj : Record.ofJson? j = some record) :
    record.metadata.resourceVersion.getD "" = storedVersion j := by
  rw [Record.ofJson?, Option.bind_eq_bind, Option.bind_eq_some_iff] at hj
  obtain ⟨ms, hstrict, hj⟩ := hj
  cases j with
  | object members =>
    -- There is at most one member called metadata, so the reader and the store look at the same one.
    obtain ⟨rfl, hone⟩ := Members.of_strictMembers? hstrict
    rw [Option.bind_eq_bind, Option.bind_eq_some_iff] at hj
    obtain ⟨metadata, hm, hj⟩ := hj
    cases hj
    show metadata.resourceVersion.getD "" = _
    rw [Members.read_of_filter _ _ (Members.filter_eq_optional_get? (hone "metadata" (by simp)))] at hm
    rw [storedVersion, metadataText_object]
    cases hget : ms.get? "metadata" with
    | none =>
      rw [hget] at hm
      cases hm
      rfl
    | some md =>
      rw [hget] at hm
      simp only [Option.elim_some] at hm
      cases md with
      | object mds =>
        have hord : Members.Ordered mds := h mds hget
        have hv := ObjectMeta.resourceVersion_of_ofJson? hm
        rw [Members.nullable_of_filter _ (hord.filter_key _)] at hv
        exact text_of_nullable hv
      | _ => cases hm
  | _ => cases hstrict

end MemoryStore

end AppGateway
