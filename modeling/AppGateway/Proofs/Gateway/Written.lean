import AppGateway.Proofs.Gateway.Program
import AppGateway.Proofs.Mapping
import Mathlib.Tactic.Tauto

/-!
# What is sent for an application

* (addressing) `Application.addressed_of_some`, `Application.addressed_of_none`: an application is taken for a request
  when it agrees with the name and the namespace of the request as far as it tells them, and it then has both;
* (sending) `writtenRecord_spec`: the record that an update sends has the name of the release of the
  application, and the resource version of the application, or else that of the release found before;
* (answers) `fetched_settled`, `projected_settled`: what was sent is read of the answer of the store, except that a null
  as the values of an application is read as none.
-/

namespace AppGateway

namespace Application

/-- The name under which an application is addressed, if it agrees with the request. -/
def addressedName? (app : Application) (name : Option String) (ns : String) : Option String :=
  if (app.name = "" ∨ app.name = name.getD app.name) ∧ name.getD app.name ≠ "" ∧
      (app.metadata.ns.getD "" = "" ∨ app.metadata.ns.getD "" = ns) then
    some (name.getD app.name)
  else none

/-- An application is addressed by the name that the request gives, or else by its own. -/
theorem addressedName?_eq_getD {app : Application} {name : Option String} {ns n : String}
    (h : app.addressedName? name ns = some n) : n = name.getD app.name := by
  rw [addressedName?] at h
  split at h
  · exact (Option.some.inj h).symm
  · cases h

/-- The application with the name and the namespace of a request. -/
def addressedAs (app : Application) (name ns : String) : Application :=
  { app with metadata := { app.metadata with name := some name, ns := some ns } }

@[simp] theorem name_addressedAs (app : Application) (name ns : String) : (app.addressedAs name ns).name = name := rfl

/-- The second half of addressing, which is about the namespace. -/
def placed (app : Application) (ns : String) : Except Failure Application :=
  if app.name = "" then .error (.badRequest "name is required")
  else
    let given := app.metadata.ns.getD ""
    if given = "" then pure { app with metadata := { app.metadata with ns := some ns } }
    else if given = ns then pure app
    else .error (.badRequest ("the namespace of the provided object (" ++ given
      ++ ") does not match the namespace sent on the request (" ++ ns ++ ")"))

theorem addressed_eq (app : Application) (name : Option String) (ns : String) :
    app.addressed name ns =
      match name with
      | none => app.placed ns
      | some name =>
        if app.name = "" then { app with metadata := { app.metadata with name := some name } : Application }.placed ns
        else if app.name = name then app.placed ns
        else .error (.badRequest ("the name of the object (" ++ app.name
          ++ ") does not match the name on the URL (" ++ name ++ ")")) := by
  cases name with
  | none => rfl
  | some name =>
    rw [addressed]
    by_cases hempty : app.metadata.name.getD "" = ""
    · simp only [Application.name, hempty, if_true]
      rfl
    · by_cases hname : app.metadata.name.getD "" = name
      · simp only [Application.name, hname, if_true]
        rfl
      · simp only [Application.name, hempty, hname, if_false]
        rfl

private theorem placed_of_named {app : Application} {name ns : String} (hname : app.metadata.name = some name)
    (hne : name ≠ "") (hns : app.metadata.ns.getD "" = "" ∨ app.metadata.ns.getD "" = ns) :
    app.placed ns = .ok (app.addressedAs name ns) := by
  have happ : app.name = name := by rw [Application.name, hname, Option.getD_some]
  rw [placed, happ, if_neg hne, addressedAs, ← hname]
  by_cases hempty : app.metadata.ns.getD "" = ""
  · rw [if_pos hempty]
    rfl
  · have hgiven : app.metadata.ns = some ns := by
      cases hns' : app.metadata.ns with
      | none => simp [hns'] at hempty
      | some given =>
        rw [hns', Option.getD_some] at hempty hns
        exact congrArg some (hns.resolve_left hempty)
    rw [if_neg hempty, if_pos (by rw [hgiven, Option.getD_some]), ← hgiven]
    rfl

private theorem placed_of_unfit {app : Application} {ns : String}
    (h : app.name = "" ∨ ¬ (app.metadata.ns.getD "" = "" ∨ app.metadata.ns.getD "" = ns)) :
    ∃ message, app.placed ns = .error (.badRequest message) := by
  rw [placed]
  by_cases hname : app.name = ""
  · exact ⟨_, if_pos hname⟩
  · have hns := h.resolve_left hname
    rw [not_or] at hns
    exact ⟨_, by rw [if_neg hname, if_neg hns.1, if_neg hns.2]⟩

/-- An application that agrees with the request has the name and the namespace of the request. -/
theorem addressed_of_some {app : Application} {name : Option String} {ns n : String}
    (h : app.addressedName? name ns = some n) : app.addressed name ns = .ok (app.addressedAs n ns) := by
  rw [addressedName?] at h
  split at h
  · rename_i hfit
    obtain ⟨hname, hne, hns⟩ := hfit
    cases h
    rw [addressed_eq]
    cases name with
    | none =>
      refine placed_of_named ?_ hne hns
      show app.metadata.name = some (app.metadata.name.getD "")
      cases hm : app.metadata.name with
      | none => exact absurd (by simp [Application.name, hm]) hne
      | some name => rfl
    | some name =>
      -- The name of the request stands in when the application has none.
      simp only [Option.getD_some] at hname hne ⊢
      by_cases hempty : app.name = ""
      · rw [if_pos hempty]
        exact placed_of_named rfl hne hns
      · have hname := hname.resolve_left hempty
        rw [if_neg hempty, if_pos hname]
        refine placed_of_named ?_ hne hns
        rw [Application.name] at hname hempty
        cases hm : app.metadata.name with
        | none => simp [hm] at hempty
        | some given => simpa [hm] using hname
  · cases h

/-- An application that does not agree with the request makes a bad request. -/
theorem addressed_of_none {app : Application} {name : Option String} {ns : String}
    (h : app.addressedName? name ns = none) : ∃ message, app.addressed name ns = .error (.badRequest message) := by
  rw [addressedName?] at h
  split at h
  · cases h
  · rename_i hunfit
    rw [addressed_eq]
    cases name with
    | none =>
      refine placed_of_unfit ?_
      simp only [Option.getD_none] at hunfit
      tauto
    | some name =>
      simp only [Option.getD_some] at hunfit ⊢
      by_cases hempty : app.name = ""
      · rw [if_pos hempty]
        refine placed_of_unfit ?_
        show name = "" ∨ _
        tauto
      · rw [if_neg hempty]
        by_cases hname : app.name = name
        · rw [if_pos hname]
          refine placed_of_unfit (.inr fun hns => hunfit ⟨.inr hname, hname ▸ hempty, hns⟩)
        · exact ⟨_, if_neg hname⟩

end Application

namespace ResourceDefinition

variable (d : ResourceDefinition) {ns name : String}

theorem writtenRecord_of_some {stored : Option Release} {app : Application}
    (h : app.addressedName? (some name) ns = some name) :
    d.writtenRecord ns name stored app = writeRelease .update name (d.toRelease (app.addressedAs name ns) stored) := by
  rw [writtenRecord, Application.addressed_of_some h, Except.ok_bind]

theorem addressedName?_eq {app : Application} {n : String} (h : app.addressedName? (some name) ns = some n) :
    n = name := Application.addressedName?_eq_getD h

/-- The record of a release has its name and its resource version. -/
private theorem of_writeRelease {operation : Operation} {release : Release} {record : Record}
    (h : writeRelease operation name release = .ok record) :
    record.name = release.name ∧ record.metadata.resourceVersion = release.metadata.resourceVersion := by
  have hr : release.toRecord = .ok record := Except.of_mapError_eq_ok h
  obtain ⟨hname, _, hversion⟩ := ObjectMeta.text_of_ofJson?_toJson (Release.metadata_of_toRecord hr)
  exact ⟨by rw [Record.name, hname, Release.name], hversion⟩

theorem toRelease_settled_rereads (app : Application) {stored : Option Release}
    (hstored : ∀ r, stored = some r → r.Rereads) : (d.toRelease app stored).settled.Rereads :=
  d.toRelease_rereads { app with spec := Members.dropNull app.spec } (Members.dropNull_ne_null app.spec) hstored

/-- A release that is read back is written without a fault. -/
theorem writeRelease_of_settled {operation : Operation} {release : Release} (h : release.settled.Rereads) :
    writeRelease operation name release = .ok release.toStored := by
  have hmetadata : release.metadata.Rereads := h.metadata
  rw [writeRelease, Release.toRecord_of_metadata hmetadata]
  rfl

/-- An application that does not agree with the request is not sent. -/
theorem createdRecord_of_none {app : Application} (h : app.addressedName? none ns = none) :
    ∃ message, d.createdRecord ns app = .error (.badRequest message) := by
  obtain ⟨message, hm⟩ := Application.addressed_of_none h
  exact ⟨message, by rw [createdRecord, hm]; rfl⟩

theorem createdRecord_of_some {app : Application} (h : app.addressedName? none ns = some name) :
    d.createdRecord ns app = .ok (name, (d.toRelease (app.addressedAs name ns) none).toStored) := by
  have hsettled : (d.toRelease (app.addressedAs name ns) none).settled.Rereads :=
    d.toRelease_settled_rereads _ (by simp)
  rw [createdRecord, Application.addressed_of_some h, Except.ok_bind, Application.name_addressedAs,
    writeRelease_of_settled hsettled]
  rfl

/-- An application whose name does not fit is refused, and no record is made of it. -/
theorem writtenRecord_of_none (stored : Option Release) {app : Application}
    (h : app.addressedName? (some name) ns = none) :
    ∃ message, d.writtenRecord ns name stored app = .error (.badRequest message) := by
  obtain ⟨message, hm⟩ := Application.addressed_of_none h
  exact ⟨message, by rw [writtenRecord, hm]; rfl⟩

/-- What an update sends has the name of the release of the application, and the version of the application or else of
the release found before. -/
theorem writtenRecord_spec {stored : Option Release} {app : Application} {record : Record}
    (h : d.writtenRecord ns name stored app = .ok record) :
    record.name = d.names.toBacking name ∧
      record.metadata.resourceVersion =
        app.metadata.resourceVersion.or (stored.bind (·.metadata.resourceVersion)) := by
  cases hfit : app.addressedName? (some name) ns with
  | none =>
    obtain ⟨message, hm⟩ := d.writtenRecord_of_none stored hfit
    rw [hm] at h
    cases h
  | some n =>
    cases addressedName?_eq hfit
    rw [d.writtenRecord_of_some hfit] at h
    exact of_writeRelease h

/-! ### Answers -/

theorem record_settled {r : Release} (h : r.settled.Rereads) : Record.ofJson? r.toJson = some r.toStored := by
  have hmetadata : r.metadata.Rereads := h.metadata
  rw [Release.record_ofJson?_toJson, ObjectMeta.ofJson?_toJson hmetadata]
  rfl

/-- The answer that a record is missing is passed on. -/
theorem fetched_of_missing {operation : Operation} {e : ErrorResponse} (h : e.code = 404) :
    d.fetched operation name (.error (.api e)) = .error (.backingNotFound name e) := by
  show Except.error (Failure.ofBacking operation name (.api e)) = _
  rw [Failure.ofBacking, if_pos h]

/-- A release of another type is answered as if it were missing. -/
theorem fetched_of_out_of_scope {operation : Operation} {record : Record} {r : Release}
    (hr : Release.ofRecord record = .ok r) (hscope : d.inScope r = false) :
    d.fetched operation name (.ok record) = .error (.notFound d.groupResource name) := by
  rw [fetched, Except.mapError_ok, Except.ok_bind, readInScope, readRelease, hr, Except.mapError_ok, Except.ok_bind,
    hscope, if_neg Bool.false_ne_true]

theorem fetched_settled {operation : Operation} {r : Release} (h : r.settled.Rereads) :
    d.fetched operation name (MemoryStore.asRecord (.ok r.toJson)) =
      if d.inScope r = true then .ok r.settled else .error (.notFound d.groupResource name) := by
  rw [MemoryStore.asRecord_ok, record_settled h]
  show d.readInScope operation name r.toStored = _
  rw [readInScope, readRelease, Release.ofRecord_settled h, Except.mapError_ok, Except.ok_bind]
  rfl

/-- A written release is shown when it is of the type. -/
theorem shown?_settled {r : Release} (h : r.settled.Rereads) :
    d.shown? r.toStored = if d.inScope r = true then some (d.toApplication r.settled) else none := by
  rw [shown?, Release.ofRecord_settled h]
  rfl

theorem projected_settled {operation : Operation} {r : Release} (h : r.settled.Rereads) :
    d.projected operation name (MemoryStore.asRecord (.ok r.toJson)) = .ok (d.toApplication r.settled) := by
  rw [MemoryStore.asRecord_ok, record_settled h]
  show d.project operation name r.toStored = _
  rw [project, readRelease, Release.ofRecord_settled h]
  rfl

end ResourceDefinition

end AppGateway
