import AppGateway.Mapping
import AppGateway.Proofs.Backing.Versions
import AppGateway.Proofs.Meta.Labels
import AppGateway.Proofs.Resource.Reread

/-!
# Releases written from applications

* (written) `toRelease_rereads`, `inScope_toRelease`: the release that is written from an application read from JSON is
  read back as it is, and is of the type that it was written for;
* (stored) `Release.withVersion_toJson`: the object of a release whose resource version the store has set is the object
  of the release with that version;
* (labels) `label_toRelease`: a configured label overrides one that is stored;
* (names) `toBacking_injective`: two applications never share a release.
-/

namespace AppGateway

theorem NameScheme.toBacking_injective (s : NameScheme) : Function.Injective s.toBacking :=
  Function.LeftInverse.injective s.toSynthetic_toBacking

namespace Application

/-- The values of an application that was read from JSON are not null. -/
theorem spec_ne_null {j : Json} {app : Application} (h : ofJson? j = some app) : app.spec ≠ some .null := by
  simp only [ofJson?, Option.bind_eq_bind, Option.bind_eq_some_iff] at h
  obtain ⟨_, _, _, _, _, _, _, _, _, hspec, _, _, _, _, h⟩ := h
  cases h
  exact Members.nullable_any_ne_null hspec

end Application

namespace Release

/-- A release with another resource version. -/
def versioned (r : Release) (v : String) : Release :=
  { r with metadata := { r.metadata with resourceVersion := some v } }

theorem Rereads.versioned {r : Release} (h : r.Rereads) (v : String) : (r.versioned v).Rereads :=
  ⟨⟨h.metadata.creation, h.metadata.grace, h.metadata.deletion, h.metadata.generation, h.metadata.managed⟩, h.spec,
    h.status⟩

private theorem get?_metadata (r : Release) : Members.get? r.members "metadata" = some r.metadata.toJson := by
  simp [members, Members.get?_cons]

private theorem set_metadata (r : Release) (m : ObjectMeta) :
    r.members.set "metadata" m.toJson = { r with metadata := m : Release }.members := by
  simp only [members, List.append_assoc]
  simp (disch := decide) only [Members.set_optional_append]
  simp [Members.set]

/-- Setting the version of a written release writes the release with that version. -/
theorem withVersion_toJson (r : Release) (v : String) :
    MemoryStore.withVersion v r.toJson = (r.versioned v).toJson := by
  have hset : Members.set r.metadata.members "resourceVersion" (.string v) =
      { r.metadata with resourceVersion := some v : ObjectMeta }.members := r.metadata.set_resourceVersion v
  rw [MemoryStore.withVersion, toJson_eq, Json.members?, Option.getD_some, get?_metadata, Option.bind_some,
    ObjectMeta.toJson_eq, Json.members?, Option.getD_some, hset, ← ObjectMeta.toJson_eq, set_metadata]
  rfl

theorem withVersion_toStored (r : Release) (v : String) :
    MemoryStore.withVersion v r.toStored.toJson = (r.versioned v).toJson := by
  rw [toStored_toJson, withVersion_toJson]

theorem settled_versioned_rereads {r : Release} (h : r.settled.Rereads) (v : String) :
    (r.versioned v).settled.Rereads := h.versioned v

theorem storedVersion_toJson (r : Release) : storedVersion r.toJson = r.metadata.resourceVersion.getD "" := by
  rw [← toStored_toJson]
  exact MemoryStore.resourceVersion_toJson r.toStored

end Release

namespace ResourceDefinition

variable (d : ResourceDefinition)

theorem toRelease_rereads (app : Application) (happ : app.spec ≠ some .null) {stored : Option Release}
    (hstored : ∀ r, stored = some r → r.Rereads) : (d.toRelease app stored).Rereads where
  metadata := {
    creation := by rintro t ⟨⟩
    grace := by rintro n ⟨⟩
    deletion := by rintro t ⟨⟩
    generation := by rintro n ⟨⟩
    managed := by rintro fs ⟨⟩ }
  spec := {
    chart := by
      rintro t ⟨⟩
      cases stored with
      | none => exact ⟨Members.avoids_nil _, Members.avoids_nil _⟩
      | some r =>
        cases ht : r.spec.chart with
        | none =>
          refine ⟨?_, ?_⟩
          · simpa [Chart.Rereads, ht] using Members.avoids_nil _
          · simpa [ht] using Members.avoids_nil _
        | some t =>
          have hr := (hstored r rfl).spec.chart t ht
          refine ⟨?_, ?_⟩
          · simpa [Chart.Rereads, ht] using hr.spec
          · simpa [ht] using hr.extra
    values := happ
    extra := by
      cases stored with
      | none => exact Members.avoids_nil _
      | some r => exact (hstored r rfl).spec.extra }
  status := by rintro s ⟨⟩

theorem inScope_iff {d : ResourceDefinition} {r : Release} :
    d.inScope r = true ↔ ∃ chart source, r.chart? = some chart ∧ chart.source = some source ∧
      chart.chart = some d.release.chart.name ∧ source.kind = some d.release.chart.source.kind ∧
      source.name = some d.release.chart.source.name ∧ source.ns = some d.release.chart.source.ns := by
  rw [inScope]
  cases r.chart? with
  | none => simp
  | some chart =>
    cases hsource : chart.source with
    | none => simp [hsource]
    | some source => simp [hsource, and_assoc]

/-- What is written for a type is of this type. -/
theorem inScope_toRelease (app : Application) (stored : Option Release) :
    d.inScope (d.toRelease app stored) = true := by
  simp [inScope, toRelease, Release.chart?]

/-- The labels of what is written are those stored before, with the configured ones set over them. -/
theorem label_toRelease (app : Application) (stored : Option Release) (key : String) :
    (d.toRelease app stored).metadata.labels.bind (·.get? key) =
      (d.release.labels.get? key).or ((stored.bind (·.metadata.labels)).bind (·.get? key)) := by
  let labels := ((stored.bind (·.metadata.labels)).getD .empty).union d.release.labels
  have hfound : labels.get? key =
      (d.release.labels.get? key).or ((stored.bind (·.metadata.labels)).bind (·.get? key)) := by
    rw [StringMap.get?_union]
    cases stored.bind (·.metadata.labels) <;> rfl
  show (if labels.isEmpty then none else some labels).bind (·.get? key) = _
  rw [← hfound]
  -- Labels are left out when there are none, and then nothing is found in them.
  split
  · rename_i hempty
    exact (StringMap.get?_of_isEmpty hempty key).symm
  · rfl

theorem inScope_versioned (r : Release) (v : String) : d.inScope (r.versioned v) = d.inScope r := rfl

end ResourceDefinition

end AppGateway
