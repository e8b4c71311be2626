import AppGateway.Proofs.Gateway.Atomic
import AppGateway.Proofs.Gateway.Failures
import AppGateway.Proofs.Resource.Decoded

/-!
# Putting an application twice

An application is written over the release that it was written as before without a change to it, because what it takes
from the stored release is all there already.

* (fixed point) `toRelease_toRelease`: the release that backs an application is what is written for it over this
  release;
* (storing) `put_outcome`: a put fails with the code of an error, or the release of the application is stored and shown;
* (once more) `put_again`: when this release is stored, the put succeeds and stores it with another version.
-/

namespace AppGateway

theorem Failure.code_ofBacking {operation : Operation} {name : String} {e : BackingError}
    (h : ∀ response, e = .api response → 400 ≤ response.code) : 400 ≤ (ofBacking operation name e).code := by
  rcases code_cases (ofBacking operation name e) with hcode | ⟨response, hsource, -, -, hlow⟩
  · exact hcode
  · exact absurd (h response (source?_ofBacking hsource).symm) (Nat.not_le_of_lt hlow)

/-- Without an error of the backing store to pass on, a failure has a code from 400 on. -/
theorem Failure.Own.code {α : Type} {r : Except Failure α} (h : Own r) {f : Failure} (hf : r = .error f) :
    400 ≤ f.code := by
  rcases code_cases f with hcode | ⟨response, hsource, -⟩
  · exact hcode
  · rw [h f hf] at hsource
    cases hsource

namespace ResourceDefinition

variable (d : ResourceDefinition) (app : Application)

/-! ### The fixed point -/

/-- Labels that are left out when there are none are the same when they are asked for. -/
private theorem getD_of_isEmpty (labels : StringMap) :
    (if labels.isEmpty then none else some labels).getD .empty = labels := by
  obtain ⟨entries, hsorted⟩ := labels
  cases entries <;> rfl

/-- An application is written over the release that backs it without a change. -/
theorem toRelease_toRelease (stored : Option Release) :
    d.toRelease app (some (d.toRelease app stored)) = d.toRelease app stored := by
  let labels := ((stored.bind (·.metadata.labels)).getD .empty).union d.release.labels
  have hlabels : ((d.toRelease app stored).metadata.labels.getD .empty).union d.release.labels = labels := by
    have hgiven : (d.toRelease app stored).metadata.labels.getD .empty = labels := getD_of_isEmpty labels
    rw [hgiven, StringMap.union_union]
  have hversion : app.metadata.resourceVersion.or (d.toRelease app stored).metadata.resourceVersion =
      (d.toRelease app stored).metadata.resourceVersion := by
    rw [toRelease]
    cases app.metadata.resourceVersion <;> rfl
  rw [toRelease]
  simp only [Option.bind_some, hlabels, hversion]
  rfl

/-- An application that asks for no version takes that of the stored release. -/
private theorem toRelease_versioned {app : Application} (happ : app.metadata.resourceVersion = none) (stored : Release)
    (version : String) : d.toRelease app (some (stored.versioned version)) =
      (d.toRelease app (some stored)).versioned version := by
  simp only [toRelease, Release.versioned, happ, Option.none_or, Option.bind_some]
  rfl

/-- When the release that backs an application is stored, it is written once more, with the version it has there. -/
private theorem toRelease_stored {app : Application} (happ : app.metadata.resourceVersion = none)
    (stored : Option Release)
    (version : String) : d.toRelease app (some ((d.toRelease app stored).versioned version).settled) =
      (d.toRelease app stored).versioned version := by
  have hsettled : d.toRelease app (some ((d.toRelease app stored).versioned version).settled) =
      d.toRelease app (some ((d.toRelease app stored).versioned version)) := rfl
  rw [hsettled, d.toRelease_versioned happ, toRelease_toRelease]

/-! ### Puts -/

variable {σ : Type} {b : BackingStore σ} {issued : σ → String → Prop} {s : σ} {ns name : String}

/-- An update has stored a release with a version, and shows it. -/
structure Put (d : ResourceDefinition) (b : BackingStore σ) (ns name : String) (release : Release) (created : Bool)
    (version : String) (s : σ) (outcome : Except Failure (Application × Bool) × σ) : Prop where
  shown : outcome.1 = .ok (d.toApplication (release.versioned version).settled, created)
  contents : b.contents outcome.2 ns =
    (b.contents s ns).set (d.names.toBacking name) (release.versioned version).toJson

variable {d}

theorem Put.find? {release : Release} {created : Bool} {version : String}
    {outcome : Except Failure (Application × Bool) × σ} (h : d.Put b ns name release created version s outcome) :
    b.find? outcome.2 ns (d.names.toBacking name) = some (release.versioned version).toJson := by
  rw [BackingStore.find?, h.contents, Directory.find?_set_self]

/-- A write that the store has answered with what it has stored is a put. -/
theorem put_of_stored {release : Release} (hr : release.settled.Rereads) {version : String}
    {answer : Except BackingError Record} {s' : σ} (created : Bool)
    (hanswer : answer = MemoryStore.asRecord (.ok (MemoryStore.withVersion version release.toStored.toJson)))
    (hcontents : b.contents s' ns = (b.contents s ns).set (d.names.toBacking name)
      (MemoryStore.withVersion version release.toStored.toJson)) :
    d.Put b ns name release created version s ((d.projected .update name answer).map (·, created), s') := by
  rw [Release.withVersion_toStored] at hanswer hcontents
  refine ⟨?_, hcontents⟩
  rw [hanswer, d.projected_settled (Release.settled_versioned_rereads hr version)]
  rfl

/-- A write that the store refuses fails with the code of an error. -/
private theorem failed_of_refused {c : BackingCall} {code : Nat} (h : b.Refuses s ns c code) (hcode : 400 ≤ code)
    {answer : Except BackingError Record} {created : Bool} (hanswer : ∀ e, b.reply c s = .error e → answer = .error e) :
    ∃ f, (d.projected .update name answer).map (·, created) = .error f ∧ 400 ≤ f.code := by
  obtain ⟨⟨e, he, hreply⟩, -⟩ := h
  rw [hanswer _ hreply]
  refine ⟨.ofBacking .update name (.api e), rfl, Failure.code_ofBacking ?_⟩
  rintro response ⟨⟩
  exact he.symm ▸ hcode

/-- A release is stored over the object that its version is of. -/
theorem put_of_current (h : b.Faithful issued) (stored : Release) {release : Release}
    (hr : release.settled.Rereads) {j : Json} (hfind : b.find? s ns (d.names.toBacking name) = some j)
    (hcurrent : ∀ v, release.metadata.resourceVersion = some v → v = "" ∨ v = storedVersion j) :
    ∃ version, d.Put b ns name release false version s
      ((d.storeRecord ns name (some stored) release.toStored).run b.answer s) := by
  have hcurrent : ∀ v, release.toStored.metadata.resourceVersion = some v → v = "" ∨ v = storedVersion j := hcurrent
  obtain ⟨version, -, -, -, hreply, hcontents⟩ := h.replace_current hfind hcurrent
  exact ⟨version, put_of_stored hr false hreply hcontents⟩

/-- The write of an update fails with the code of an error, or it is a put. -/
private theorem storeRecord_outcome (h : b.Faithful issued) (stored : Option Release) {release : Release}
    (hr : release.settled.Rereads) (hname : release.name = d.names.toBacking name) (s : σ) :
    (∃ f, ((d.storeRecord ns name stored release.toStored).run b.answer s).1 = .error f ∧ 400 ≤ f.code) ∨
      ∃ version, d.Put b ns name release stored.isNone version s
        ((d.storeRecord ns name stored release.toStored).run b.answer s) := by
  cases stored with
  | none =>
    cases hfind : b.find? s ns release.toStored.name with
    | some j => exact .inl (failed_of_refused (h.create_present hfind) (by decide) fun _ he => he)
    | none =>
      obtain ⟨version, -, -, -, hreply, hcontents⟩ := h.create_absent hfind
      have hkey : release.toStored.name = d.names.toBacking name := hname
      rw [hkey] at hcontents
      exact .inr ⟨version, put_of_stored hr true hreply hcontents⟩
  | some found =>
    cases hfind : b.find? s ns (d.names.toBacking name) with
    | none => exact .inl (failed_of_refused (h.replace_missing hfind) (by decide) fun _ he => he)
    | some j =>
      by_cases hcurrent : ∀ v, release.metadata.resourceVersion = some v → v = "" ∨ v = storedVersion j
      · exact .inr (put_of_current h found hr hfind hcurrent)
      · obtain ⟨v, hv⟩ := Classical.not_forall.mp hcurrent
        obtain ⟨hversion, hother⟩ := Classical.not_imp.mp hv
        rw [not_or] at hother
        have hversion : release.toStored.metadata.resourceVersion = some v := hversion
        exact .inl (failed_of_refused (h.replace_stale hfind hversion hother.1 hother.2) (by decide) fun _ he => he)

/-- Errors of the store are about what is asked for, and have the code of an error. -/
private theorem code_of_fetched (h : b.Faithful issued) {operation : Operation} {key : String} {f : Failure}
    (hf : d.fetched operation name (b.reply (.get ns key) s) = .error f) : 400 ≤ f.code := by
  cases hfind : b.find? s ns key with
  | none =>
    obtain ⟨⟨e, he, hreply⟩, -⟩ := h.get_missing hfind
    rw [hreply] at hf
    cases hf
    refine Failure.code_ofBacking ?_
    rintro response ⟨⟩
    exact he.symm ▸ by decide
  | some j =>
    rw [(h.get_present hfind).1, MemoryStore.asRecord_ok] at hf
    cases hj : Record.ofJson? j with
    | none =>
      rw [hj] at hf
      cases hf
      exact Failure.code_ofBacking (by rintro response ⟨⟩)
    | some record =>
      rw [hj] at hf
      exact (d.own_readInScope operation name record).code hf

/-- What is found to be put over was read of a record, or the failure has the code of an error. -/
private theorem fetchedForUpdate_outcome (h : b.Faithful issued) (ns name : String) (s : σ) :
    (∃ f, d.fetchedForUpdate name true (b.reply (.get ns (d.names.toBacking name)) s) = .error f ∧ 400 ≤ f.code) ∨
      ∃ stored, d.fetchedForUpdate name true (b.reply (.get ns (d.names.toBacking name)) s) = .ok stored ∧
        ∀ e, stored = some e → e.Rereads := by
  rw [fetchedForUpdate]
  split
  · rename_i release hfetched
    obtain ⟨record, -, hread, -⟩ := d.of_fetched hfetched
    refine .inr ⟨some release, rfl, ?_⟩
    rintro e ⟨⟩
    exact Release.rereads_of_ofRecord hread
  · exact .inr ⟨none, rfl, by simp⟩
  · rename_i failure _ hfetched
    exact .inl ⟨failure, rfl, code_of_fetched h hfetched⟩

/-- A put reads and then stores what it is given. -/
theorem put_run (hns : ns ≠ "") (name : String) (s : σ) :
    (d.update (some ns) name (fun _ => .ok app) true).run.run b.answer s =
      match d.fetchedForUpdate name true (b.reply (.get ns (d.names.toBacking name)) s) with
      | .error f => (.error f, b.after (.get ns (d.names.toBacking name)) s)
      | .ok stored =>
        match d.writtenRecord ns name stored app with
        | .error f => (.error f, b.after (.get ns (d.names.toBacking name)) s)
        | .ok record =>
          (d.storeRecord ns name stored record).run b.answer (b.after (.get ns (d.names.toBacking name)) s) := by
  rw [update_run_eq hns, fetchForUpdate_run_eq]
  cases d.fetchedForUpdate name true (b.reply (.get ns (d.names.toBacking name)) s) with
  | error f => rfl
  | ok stored =>
    dsimp only
    rw [storeUpdated_run]
    cases d.writtenRecord ns name stored app <;> rfl

private theorem Put.of_contents_eq {release : Release} {created : Bool} {version : String} {s' : σ}
    {outcome : Except Failure (Application × Bool) × σ} (h : d.Put b ns name release created version s' outcome)
    (hs : b.contents s' ns = b.contents s ns) : d.Put b ns name release created version s outcome :=
  ⟨h.shown, hs ▸ h.contents⟩

variable (d) in
/-- A put fails with the code of an error, or it stores the release of the application over the one it has found. -/
theorem put_outcome (h : b.Faithful issued) (ns name : String) (s : σ) :
    (∃ f, ((d.update (some ns) name (fun _ => .ok app) true).run.run b.answer s).1 = .error f ∧ 400 ≤ f.code) ∨
      ns ≠ "" ∧ app.addressedName? (some name) ns = some name ∧
        ∃ stored version, (∀ e, stored = some e → e.Rereads) ∧
          d.Put b ns name (d.toRelease (app.addressedAs name ns) stored) stored.isNone version s
            ((d.update (some ns) name (fun _ => .ok app) true).run.run b.answer s) := by
  by_cases hns : ns = ""
  · have hmissing : (some ns).getD "" = "" := hns
    rw [update, requireNamespace_of_missing .update hmissing, Action.run_of_bind]
    exact .inl ⟨.namespaceRequired .update, rfl, Nat.le_refl 400⟩
  rw [put_run app hns]
  rcases fetchedForUpdate_outcome h ns name s with ⟨f, hfailed, hcode⟩ | ⟨stored, hfound, hstored⟩
  · rw [hfailed]
    exact .inl ⟨f, rfl, hcode⟩
  · rw [hfound]
    dsimp only
    cases hfit : app.addressedName? (some name) ns with
    | none =>
      obtain ⟨message, hrecord⟩ := d.writtenRecord_of_none stored hfit
      rw [hrecord]
      exact .inl ⟨.badRequest message, rfl, Nat.le_refl 400⟩
    | some n =>
      cases addressedName?_eq hfit
      have hr := d.toRelease_settled_rereads (app.addressedAs name ns) hstored
      rw [d.writtenRecord_of_some hfit, writeRelease_of_settled hr]
      rcases storeRecord_outcome h stored hr rfl (b.after (.get ns (d.names.toBacking name)) s) with
        hfailed | ⟨version, hput⟩
      · exact .inl hfailed
      · exact .inr ⟨hns, rfl, stored, version, hstored, hput.of_contents_eq (h.contents_after_get s ns _)⟩

/-- Where the release of an application is stored, putting the application stores it with another version. -/
theorem put_again (h : b.Faithful issued) (hns : ns ≠ "") {app : Application}
    (happ : app.metadata.resourceVersion = none) (hfit : app.addressedName? (some name) ns = some name)
    {stored : Option Release} (hstored : ∀ e, stored = some e → e.Rereads) {version : String}
    (hfind : b.find? s ns (d.names.toBacking name) =
      some ((d.toRelease (app.addressedAs name ns) stored).versioned version).toJson) :
    ∃ version', d.Put b ns name (d.toRelease (app.addressedAs name ns) stored) false version' s
      ((d.update (some ns) name (fun _ => .ok app) true).run.run b.answer s) := by
  let release := (d.toRelease (app.addressedAs name ns) stored).versioned version
  have hr : release.settled.Rereads :=
    Release.settled_versioned_rereads (d.toRelease_settled_rereads (app.addressedAs name ns) hstored) version
  have hscope : d.inScope release = true := d.inScope_toRelease (app.addressedAs name ns) stored
  have hfound : d.fetchedForUpdate name true (b.reply (.get ns (d.names.toBacking name)) s) =
      .ok (some release.settled) := by
    rw [fetchedForUpdate, (h.get_present hfind).1, d.fetched_settled hr, if_pos hscope]
  have happ : (app.addressedAs name ns).metadata.resourceVersion = none := happ
  have hrelease : d.toRelease (app.addressedAs name ns) (some release.settled) = release :=
    d.toRelease_stored happ stored version
  have hfind' := (h.find?_after_get s ns (d.names.toBacking name) (d.names.toBacking name)).trans hfind
  have hcurrent : ∀ v, release.metadata.resourceVersion = some v → v = "" ∨ v = storedVersion release.toJson := by
    rintro v hv
    rw [Release.storedVersion_toJson, hv]
    exact .inr rfl
  obtain ⟨version', hput⟩ := put_of_current h release.settled hr hfind' hcurrent
  rw [put_run app hns, hfound]
  dsimp only
  rw [d.writtenRecord_of_some hfit, hrelease, writeRelease_of_settled hr]
  obtain ⟨hshown, hcontents⟩ := hput.of_contents_eq (h.contents_after_get s ns _)
  exact ⟨version', hshown, hcontents⟩

end ResourceDefinition

end AppGateway
