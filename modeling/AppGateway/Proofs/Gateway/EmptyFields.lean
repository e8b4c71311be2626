import AppGateway.Proofs.Gateway.Atomic
import AppGateway.Proofs.Gateway.LostUpdate
import AppGateway.Proofs.Json.Paths
import AppGateway.Proofs.Resource.Decoded
import AppGateway.Proofs.Sample

/-!
# Empty metadata of an application

The name and the namespace of an application count as none when they are empty.  An empty resource version is sent as it
is.

* (creation) `create_alike`: what a creation sends with empty fields and without them is the same but for the version;
* (update) `afterFetch_alike_iff`: an update makes the same calls with empty fields and without them, unless it puts an
  empty version over another one (`Blanks`);
* (main result) `empty_fields_are_absent_iff`.
-/

namespace AppGateway

/-! ### Leaving out what is empty -/

/-- A text, unless it is empty. -/
def unlessEmpty : Option String → Option String
  | some text => if text = "" then none else some text
  | none => none

private theorem unlessEmpty_of_ne {text : String} (h : text ≠ "") : unlessEmpty (some text) = some text := if_neg h

private theorem getD_unlessEmpty (text : Option String) : (unlessEmpty text).getD "" = text.getD "" := by
  cases text with
  | none => rfl
  | some text => by_cases h : text = "" <;> simp [unlessEmpty, h]

/-- A text that is given and not empty is kept. -/
private theorem unlessEmpty_of_getD {text : Option String} (h : text.getD "" ≠ "") : unlessEmpty text = text := by
  cases text with
  | none => rfl
  | some text => exact unlessEmpty_of_ne h

private theorem unlessEmpty_unlessEmpty (text : Option String) : unlessEmpty (unlessEmpty text) = unlessEmpty text := by
  cases text with
  | none => rfl
  | some text => by_cases h : text = "" <;> simp [unlessEmpty, h]

/-- An application without the name, the namespace and the resource version that are empty. -/
def Application.withoutEmpty (app : Application) : Application :=
  { app with metadata := { app.metadata with
      name := unlessEmpty app.metadata.name
      ns := unlessEmpty app.metadata.ns
      resourceVersion := unlessEmpty app.metadata.resourceVersion } }

/-- An application without its resource version if this is empty. -/
def Application.withoutEmptyVersion (app : Application) : Application :=
  { app with metadata := { app.metadata with resourceVersion := unlessEmpty app.metadata.resourceVersion } }

/-- A record without its resource version if this is empty. -/
def Record.withoutEmptyVersion (record : Record) : Record :=
  { record with metadata := { record.metadata with resourceVersion := unlessEmpty record.metadata.resourceVersion } }

namespace Application

variable (app : Application)

@[simp] theorem name_withoutEmpty : app.withoutEmpty.name = app.name := getD_unlessEmpty app.metadata.name

private theorem placed_withoutEmpty (ns : String) :
    app.withoutEmpty.placed ns = (app.placed ns).map withoutEmptyVersion := by
  have hgiven : app.withoutEmpty.metadata.ns.getD "" = app.metadata.ns.getD "" := getD_unlessEmpty _
  rw [placed, placed, name_withoutEmpty, hgiven]
  by_cases hname : app.name = ""
  · simp only [if_pos hname]
    rfl
  · have hkept : unlessEmpty app.metadata.name = app.metadata.name := unlessEmpty_of_getD hname
    by_cases hempty : app.metadata.ns.getD "" = ""
    · simp only [if_neg hname, if_pos hempty, withoutEmpty, hkept]
      rfl
    · have hkept' : unlessEmpty app.metadata.ns = app.metadata.ns := unlessEmpty_of_getD hempty
      by_cases hns : app.metadata.ns.getD "" = ns
      · simp only [if_neg hname, if_neg hempty, if_pos hns, withoutEmpty, hkept, hkept']
        rfl
      · simp only [if_neg hname, if_neg hempty, if_neg hns]
        rfl

/-- An application is taken for a request, or refused, as it is without what is empty. -/
theorem addressed_withoutEmpty (name : Option String) (ns : String) :
    app.withoutEmpty.addressed name ns = (app.addressed name ns).map withoutEmptyVersion := by
  rw [addressed_eq, addressed_eq, name_withoutEmpty]
  cases name with
  | none => exact app.placed_withoutEmpty ns
  | some name =>
    by_cases hempty : app.name = ""
    · let named : Application := { app with metadata := { app.metadata with name := some name } }
      simp only [if_pos hempty]
      by_cases hname : name = ""
      · cases hname
        rfl
      · rw [← named.placed_withoutEmpty ns, withoutEmpty, withoutEmpty, unlessEmpty_of_ne hname]
    · by_cases hname : app.name = name
      · simp only [if_neg hempty, if_pos hname]
        exact app.placed_withoutEmpty ns
      · simp only [if_neg hempty, if_neg hname]
        rfl

private theorem addressedName?_withoutEmpty (name : Option String) (ns : String) :
    app.withoutEmpty.addressedName? name ns = app.addressedName? name ns := by
  have hgiven : app.withoutEmpty.metadata.ns.getD "" = app.metadata.ns.getD "" := getD_unlessEmpty _
  rw [addressedName?, addressedName?, name_withoutEmpty, hgiven]

end Application

namespace Exchange

variable {α : Type}

/-- Two programs make the same calls and end with the same result, whatever the answers are.  In place of a record to be
created the other program may send it with an empty resource version, or without. -/
inductive Alike : Exchange α → Exchange α → Prop where
  | done (result : α) : Alike (.done result) (.done result)
  | call (c : BackingCall) {next next'} (rest : ∀ answer, Alike (next answer) (next' answer)) :
      Alike (.call c next) (.call c next')
  | create (ns : String) {record record' : Record} {next next'}
      (sent : record.withoutEmptyVersion = record'.withoutEmptyVersion)
      (rest : ∀ answer, Alike (next answer) (next' answer)) :
      Alike (.call (.create ns record) next) (.call (.create ns record') next')

private theorem Alike.refl (e : Exchange α) : e.Alike e := by
  induction e with
  | done result => exact .done result
  | call c next ih => exact .call c ih

/-- Programs that go on alike send the same replacement. -/
private theorem Alike.replace {ns name : String} {record record' : Record}
    {next next' : Except BackingError Record → Exchange α}
    (h : Alike (.call (.replace ns name record) next) (.call (.replace ns name record') next')) : record = record' := by
  cases h
  rfl

end Exchange

namespace ResourceDefinition

variable (d : ResourceDefinition) {ns name : String}

/-! ### What is sent -/

/-- A creation sends the same without what is empty, but for an empty version. -/
private theorem createdRecord_withoutEmpty (ns : String) (app : Application) :
    d.createdRecord ns app.withoutEmpty =
      (d.createdRecord ns app).map fun sent => (sent.1, sent.2.withoutEmptyVersion) := by
  cases hfit : app.addressedName? none ns with
  | none =>
    obtain ⟨message, hm⟩ := Application.addressed_of_none hfit
    rw [createdRecord, createdRecord, app.addressed_withoutEmpty, hm]
    rfl
  | some name =>
    rw [d.createdRecord_of_some hfit, d.createdRecord_of_some ((app.addressedName?_withoutEmpty none ns).trans hfit)]
    let record := (d.toRelease (app.addressedAs name ns) none).toStored
    show Except.ok (name, { record with metadata := { record.metadata with
        resourceVersion := (unlessEmpty app.metadata.resourceVersion).or none } }) =
      .ok (name, { record with metadata := { record.metadata with
        resourceVersion := unlessEmpty (app.metadata.resourceVersion.or none) } })
    rw [Option.or_none, Option.or_none]

/-- What an update sends is the same without what is empty, but for the version. -/
theorem writtenRecord_withoutEmpty {stored : Option Release} (hstored : ∀ e, stored = some e → e.Rereads)
    (app : Application) :
    d.writtenRecord ns name stored app.withoutEmpty = (d.writtenRecord ns name stored app).map fun record =>
      { record with metadata := { record.metadata with
          resourceVersion := (unlessEmpty app.metadata.resourceVersion).or
            (stored.bind (·.metadata.resourceVersion)) } } := by
  cases hfit : app.addressedName? (some name) ns with
  | none =>
    obtain ⟨message, hm⟩ := Application.addressed_of_none hfit
    rw [writtenRecord, writtenRecord, app.addressed_withoutEmpty, hm]
    rfl
  | some n =>
    cases addressedName?_eq hfit
    have hfit' := (app.addressedName?_withoutEmpty (some name) ns).trans hfit
    rw [d.writtenRecord_of_some hfit, d.writtenRecord_of_some hfit',
      writeRelease_of_settled (d.toRelease_settled_rereads (app.addressedAs name ns) hstored),
      writeRelease_of_settled (d.toRelease_settled_rereads (app.withoutEmpty.addressedAs name ns) hstored)]
    rfl

/-! ### The calls that are made -/

/-- With this answer to its get, an update has found a release, and what its updater makes of it asks for no version, or
for the empty one. -/
def AsksNoVersion (d : ResourceDefinition) (name : String) (updater : Option Application → Except Failure Application)
    (answer : Except BackingError Record) : Prop :=
  ∃ release app, d.fetched .update name answer = .ok release ∧ updater (some (d.toApplication release)) = .ok app ∧
    app.metadata.resourceVersion.getD "" = ""

/-- An application that is admitted puts the empty version that it asks for over that of a release. -/
def BlanksOver (ns name : String) (release : Release) (app : Application) : Prop :=
  app.addressedName? (some name) ns = some name ∧ app.metadata.resourceVersion = some "" ∧
    release.metadata.resourceVersion ≠ some ""

/-- With this answer to its get, an update has found a release, and what its updater makes of it puts an empty version
over that of the release. -/
def Blanks (d : ResourceDefinition) (ns name : String) (updater : Option Application → Except Failure Application)
    (answer : Except BackingError Record) : Prop :=
  ∃ release app, d.fetched .update name answer = .ok release ∧ updater (some (d.toApplication release)) = .ok app ∧
    BlanksOver ns name release app

private theorem missing_or_given (ctx : Option String) : ctx.getD "" = "" ∨ ∃ ns, ns ≠ "" ∧ ctx = some ns := by
  cases ctx with
  | none => exact .inl rfl
  | some ns => exact (em (ns = "")).imp id fun hns => ⟨ns, hns, rfl⟩

/-- A creation makes the same call without what is empty. -/
theorem create_alike (ctx : Option String) (app : Application) :
    (d.create ctx app).run.Alike (d.create ctx app.withoutEmpty).run := by
  rcases missing_or_given ctx with hctx | ⟨ns, hns, rfl⟩
  · rw [create, create, requireNamespace_of_missing _ hctx, Action.run_of_bind, Action.run_of_bind]
    exact .done _
  · rw [d.create_run hns, d.create_run hns, d.createdRecord_withoutEmpty]
    cases d.createdRecord ns app with
    | error f => exact .done _
    | ok sent =>
      refine .create ns ?_ fun answer => .done _
      simp only [Record.withoutEmptyVersion, unlessEmpty_unlessEmpty]

/-- An update that has found no release makes the same call without what is empty. -/
theorem store_new_alike (ns name : String) (updater : Option Application → Except Failure Application) :
    Exchange.Alike
      (match d.updatedRecord ns name updater none with
        | .error f => .done (.error f)
        | .ok record => d.storeRecord ns name none record)
      (match d.updatedRecord ns name (fun current => (updater current).map Application.withoutEmpty) none with
        | .error f => .done (.error f)
        | .ok record => d.storeRecord ns name none record) := by
  rw [updatedRecord, updatedRecord, Option.map_none]
  cases updater none with
  | error f => exact .done _
  | ok app =>
    show Exchange.Alike (match d.writtenRecord ns name none app with | .error f => _ | .ok record => _)
      (match d.writtenRecord ns name none app.withoutEmpty with | .error f => _ | .ok record => _)
    rw [d.writtenRecord_withoutEmpty (by simp)]
    cases hrecord : d.writtenRecord ns name none app with
    | error f => exact .done _
    | ok record =>
      refine .create ns ?_ fun answer => .done _
      have hversion := (d.writtenRecord_spec hrecord).2
      rw [Option.bind_none, Option.or_none] at hversion
      simp only [Record.withoutEmptyVersion, hversion, Option.bind_none, Option.or_none, unlessEmpty_unlessEmpty]

/-- Without an empty version the version that is sent is the same, unless the empty one was put over another one. -/
private theorem or_unlessEmpty_iff (version stored : Option String) :
    version.or stored = (unlessEmpty version).or stored ↔ ¬ (version = some "" ∧ stored ≠ some "") := by
  cases version with
  | none => simp [unlessEmpty]
  | some v =>
    by_cases hv : v = ""
    · simp [unlessEmpty, hv, eq_comm]
    · simp [unlessEmpty, hv]

/-- Over a release that it has found, an update makes the same call without what is empty, unless it puts an empty
version over that of the release. -/
private theorem store_over_alike_iff (ns name : String) (updater : Option Application → Except Failure Application)
    {release : Release} (hr : release.Rereads) :
    Exchange.Alike
        (match d.updatedRecord ns name updater (some release) with
          | .error f => .done (.error f)
          | .ok record => d.storeRecord ns name (some release) record)
        (match d.updatedRecord ns name (fun current => (updater current).map Application.withoutEmpty)
            (some release) with
          | .error f => .done (.error f)
          | .ok record => d.storeRecord ns name (some release) record) ↔
      ¬ ∃ app, updater (some (d.toApplication release)) = .ok app ∧ BlanksOver ns name release app := by
  rw [updatedRecord, updatedRecord, Option.map_some]
  cases hupdater : updater (some (d.toApplication release)) with
  | error f => exact iff_of_true (.done _) (by simp)
  | ok app =>
    have hstored : ∀ e, some release = some e → e.Rereads := fun e he => Option.some.inj he ▸ hr
    simp only [Except.ok.injEq, exists_eq_left']
    show Exchange.Alike (match d.writtenRecord ns name (some release) app with | .error f => _ | .ok record => _)
      (match d.writtenRecord ns name (some release) app.withoutEmpty with | .error f => _ | .ok record => _) ↔ _
    rw [d.writtenRecord_withoutEmpty hstored]
    cases hfit : app.addressedName? (some name) ns with
    | none =>
      obtain ⟨message, hrecord⟩ := d.writtenRecord_of_none (some release) hfit
      rw [hrecord]
      exact iff_of_true (.done _) (by simp [BlanksOver, hfit])
    | some n =>
      cases addressedName?_eq hfit
      have hrecord : d.writtenRecord ns name (some release) app =
          writeRelease .update name (d.toRelease (app.addressedAs name ns) (some release)) :=
        d.writtenRecord_of_some hfit
      rw [writeRelease_of_settled (d.toRelease_settled_rereads (app.addressedAs name ns) hstored)] at hrecord
      rw [hrecord]
      have hiff := or_unlessEmpty_iff app.metadata.resourceVersion release.metadata.resourceVersion
      rw [BlanksOver, hfit, eq_self, true_and, ← hiff]
      constructor
      · intro halike
        exact congrArg (·.metadata.resourceVersion) halike.replace
      · intro hversion
        let record := (d.toRelease (app.addressedAs name ns) (some release)).toStored
        have hsame : { record with metadata := { record.metadata with
            resourceVersion := (unlessEmpty app.metadata.resourceVersion).or release.metadata.resourceVersion } } =
              record := by
          rw [← hversion]
          rfl
        show Exchange.Alike (d.storeRecord ns name (some release) record) (d.storeRecord ns name (some release)
          { record with metadata := { record.metadata with
            resourceVersion := (unlessEmpty app.metadata.resourceVersion).or release.metadata.resourceVersion } })
        rw [hsame]
        exact .refl _

/-- What an update finds to be updated is what it has fetched. -/
theorem fetchedForUpdate_eq_some_iff {name : String} {mayCreate : Bool} {answer : Except BackingError Record}
    {release : Release} : d.fetchedForUpdate name mayCreate answer = .ok (some release) ↔
      d.fetched .update name answer = .ok release :=
  ⟨d.fetched_of_fetchedForUpdate, fun h => by rw [fetchedForUpdate, h]⟩

/-- Once it has an answer to its get, an update makes the same calls without what is empty, unless it puts an empty
version over that of the release that it has found. -/
theorem afterFetch_alike_iff (ns name : String) (updater : Option Application → Except Failure Application)
    (mayCreate : Bool) (answer : Except BackingError Record) :
    (d.afterFetch ns name updater mayCreate answer).Alike
        (d.afterFetch ns name (fun current => (updater current).map Application.withoutEmpty) mayCreate answer) ↔
      ¬ d.Blanks ns name updater answer := by
  rw [afterFetch, afterFetch]
  have hnot (hother : ∀ release, d.fetchedForUpdate name mayCreate answer ≠ .ok (some release)) :
      ¬ d.Blanks ns name updater answer := by
    rintro ⟨release, -, hfetched, -⟩
    exact hother release (d.fetchedForUpdate_eq_some_iff.mpr hfetched)
  cases hfound : d.fetchedForUpdate name mayCreate answer with
  | error f => exact iff_of_true (.done _) (hnot fun release => by rw [hfound]; rintro ⟨⟩)
  | ok stored =>
    cases stored with
    | none => exact iff_of_true (d.store_new_alike ns name updater) (hnot fun release => by rw [hfound]; rintro ⟨⟩)
    | some release =>
      have hfetched := d.fetchedForUpdate_eq_some_iff.mp hfound
      obtain ⟨record, -, hread, -⟩ := d.of_fetched hfetched
      refine (d.store_over_alike_iff ns name updater (Release.rereads_of_ofRecord hread)).trans (not_congr ?_)
      rw [Blanks, hfetched]
      simp

/-! ### The version that is sent -/

variable {σ ι : Type} {b : BackingStore σ} {issued : σ → String → Prop}

/-- What goes on with the answer to a get fails, and leaves the record as it is, if this was written in between. -/
def FailsIfWritten (b : BackingStore σ) (issued : σ → String → Prop) (ns key : String)
    (answer : Except BackingError Record) (rest : Exchange (Except Failure (Application × Bool))) : Prop :=
  ∀ (ι : Type) (s s' : σ) (log : List (Event σ ι)), b.Stamped issued s → b.reply (.get ns key) s = answer →
    b.Linked (b.after (.get ns key) s) log s' → (∃ e ∈ log, b.Writes e.call e.before ns key) →
      (∃ f, (rest.run b.answer s').1 = .error f) ∧ b.find? (rest.run b.answer s').2 ns key = b.find? s' ns key

/-- Only an application that is admitted is written. -/
private theorem addressedName?_of_written {stored : Option Release} {app : Application} {record : Record}
    (h : d.writtenRecord ns name stored app = .ok record) : app.addressedName? (some name) ns = some name := by
  cases hfit : app.addressedName? (some name) ns with
  | none =>
    obtain ⟨message, hrecord⟩ := d.writtenRecord_of_none stored hfit
    cases hrecord.symm.trans h
  | some n => rw [addressedName?_eq hfit]

/-- An update that puts no empty version over another one, and asks for no other, sends the version that it has read. -/
private theorem replaces_version_read {updater : Option Application → Except Failure Application} (mayCreate : Bool)
    {answer : Except BackingError Record} (hasks : d.AsksNoVersion name updater answer)
    (hkept : ¬ d.Blanks ns name updater answer) {found : Record} (hfound : answer = .ok found) :
    (∃ f, d.afterFetch ns name updater mayCreate answer = .done (.error f)) ∨
      ∃ release record, d.afterFetch ns name updater mayCreate answer = d.storeRecord ns name (some release) record ∧
        record.metadata.resourceVersion = found.metadata.resourceVersion := by
  obtain ⟨release, app, hfetched, hupdater, hversion⟩ := hasks
  have hafter : d.afterFetch ns name updater mayCreate answer =
      match d.writtenRecord ns name (some release) app with
      | .error f => .done (.error f)
      | .ok record => d.storeRecord ns name (some release) record := by
    rw [afterFetch, d.fetchedForUpdate_eq_some_iff.mpr hfetched]
    simp only [updatedRecord, Option.map_some, hupdater]
    rfl
  rw [hafter]
  cases hrecord : d.writtenRecord ns name (some release) app with
  | error f => exact .inl ⟨f, rfl⟩
  | ok record =>
    refine .inr ⟨release, record, rfl, ?_⟩
    obtain ⟨_, hanswer, hread, -⟩ := d.of_fetched hfetched
    cases hfound.symm.trans hanswer
    have hreread : release.metadata.resourceVersion = found.metadata.resourceVersion :=
      (ObjectMeta.text_of_ofJson?_toJson (Release.metadata_of_ofRecord hread)).2.2
    rw [(d.writtenRecord_spec hrecord).2, Option.bind_some, ← hreread]
    have hfit := addressedName?_of_written d hrecord
    cases happ : app.metadata.resourceVersion with
    | none => rw [Option.none_or]
    | some v =>
      rw [happ, Option.getD_some] at hversion
      cases hversion
      by_contra hother
      exact hkept ⟨release, app, hfetched, hupdater, hfit, happ, Ne.symm hother⟩

/-- A replacement with the version that was read is refused when the record was written since. -/
private theorem refused_of_written (h : b.Versioned issued) {key : String} {s s' : σ} {log : List (Event σ ι)}
    (hs : b.Stamped issued s) (hlinked : b.Linked (b.after (.get ns key) s) log s')
    (hwritten : ∃ e ∈ log, b.Writes e.call e.before ns key) {found record : Record}
    (hget : b.reply (.get ns key) s = .ok found)
    (hversion : record.metadata.resourceVersion = found.metadata.resourceVersion) :
    (∃ e, b.reply (.replace ns key record) s' = .error e) ∧
      b.find? (b.after (.replace ns key record) s') ns key = b.find? s' ns key := by
  obtain ⟨j, hj, hne, hread⟩ := hs.version_read h hget
  cases hj' : b.find? s' ns key with
  | none => exact h.replace_missing hj'
  | some j' =>
    refine h.replace_stale hj' (hversion.trans hread) hne fun hsame => ?_
    have hhistory : b.Linked s (⟨none, .get ns key, s⟩ :: log) s' := ⟨rfl, hlinked⟩
    obtain ⟨hnone, -⟩ := BackingStore.version_never_returns h hs hhistory hj hj' hsame.symm
    obtain ⟨e, he, hwrites⟩ := hwritten
    exact hnone e (List.mem_cons_of_mem _ he) hwrites

/-- A replacement that carries the version that was read fails if the record was written in between. -/
private theorem failsIfWritten_of_version (h : b.Versioned issued) {found record : Record} (release : Release)
    (hversion : record.metadata.resourceVersion = found.metadata.resourceVersion) :
    FailsIfWritten b issued ns (d.names.toBacking name) (.ok found)
      (d.storeRecord ns name (some release) record) := by
  intro ι s s' log hs hget hlinked hwritten
  obtain ⟨⟨e, he⟩, hkept⟩ := refused_of_written h hs hlinked hwritten hget hversion
  exact ⟨⟨_, projected_of_refused he⟩, hkept⟩

/-- When an empty name, an empty namespace and an empty version of an application count as none.  A creation makes the
same call without them, but for an empty version in what is sent.  An update begins with the same get, and goes on with
the same call just when it does not send an empty version over another one.  If it does not, then what it sends for an
application without a version carries the version that was read, and fails if the record was written since. -/
theorem empty_fields_are_absent_iff (h : b.Versioned issued) (d : ResourceDefinition) (ctx : Option String) :
    (∀ app, (d.create ctx app).run.Alike (d.create ctx app.withoutEmpty).run) ∧
    ∀ name updater mayCreate,
      let update := (d.update ctx name updater mayCreate).run
      let update' := (d.update ctx name (fun current => (updater current).map Application.withoutEmpty) mayCreate).run
      (ctx.getD "" = "" ∧ update.Alike update') ∨
      ∃ ns next next', ctx = some ns ∧ update = .call (.get ns (d.names.toBacking name)) next ∧
        update' = .call (.get ns (d.names.toBacking name)) next' ∧
        ∀ answer, ((next answer).Alike (next' answer) ↔ ¬ d.Blanks ns name updater answer) ∧
          (¬ d.Blanks ns name updater answer → d.AsksNoVersion name updater answer → ∀ found, answer = .ok found →
            (∃ f, next answer = .done (.error f)) ∨
            ∃ record after, next answer = .call (.replace ns (d.names.toBacking name) record) after ∧
              record.metadata.resourceVersion = found.metadata.resourceVersion ∧
              FailsIfWritten b issued ns (d.names.toBacking name) answer (next answer)) := by
  refine ⟨d.create_alike ctx, fun name updater mayCreate => ?_⟩
  rcases missing_or_given ctx with hctx | ⟨ns, hns, rfl⟩
  · refine .inl ⟨hctx, ?_⟩
    rw [update, update, requireNamespace_of_missing _ hctx, Action.run_of_bind, Action.run_of_bind]
    exact .done _
  · refine .inr ⟨ns, _, _, rfl, d.update_run hns name updater mayCreate, d.update_run hns name _ mayCreate, ?_⟩
    refine fun answer => ⟨d.afterFetch_alike_iff ns name updater mayCreate answer, ?_⟩
    rintro hkept hasks found rfl
    rcases d.replaces_version_read mayCreate hasks hkept rfl with hfailed | ⟨release, record, hcall, hversion⟩
    · exact .inl hfailed
    · rw [hcall]
      exact .inr ⟨record, _, rfl, hversion, d.failsIfWritten_of_version h release hversion⟩

/-- An update to an application with these metadata. -/
def sampleUpdater (metadata : ObjectMeta) (_ : Option Application) : Except Failure Application :=
  .ok { sampleApp with metadata }

/-- What another client writes to the release of the sample application. -/
def suspension : BackingCall :=
  .patch "tenant" "web-shop" (.merge (.object [("spec", .object [("suspend", .bool true)])]))

/-- The answer to the get of an update of the sample application. -/
def sampleAnswer : Except BackingError Record := MemoryStore.backing.reply (.get "tenant" "web-shop") shopStore.1

/-- The store in which the release of the sample application was written since it was read. -/
def suspendedStore : {s : MemoryStore // s.Sound} :=
  MemoryStore.backing.after suspension (MemoryStore.backing.after (.get "tenant" "web-shop") shopStore.1)

private theorem linked_suspendedStore : MemoryStore.backing.Linked
    (MemoryStore.backing.after (.get "tenant" "web-shop") shopStore.1)
    [⟨some (), suspension, MemoryStore.backing.after (.get "tenant" "web-shop") shopStore.1⟩] suspendedStore :=
  ⟨rfl, rfl⟩

/-- An update with an empty name and an empty namespace is refused when it comes too late. -/
theorem nameless_update_is_refused :
    ∃ next, (sampleType.update (some "tenant") "shop" (sampleUpdater { name := some "", ns := some "" }) false).run =
        .call (.get "tenant" "web-shop") next ∧
      ∃ record after, next sampleAnswer = .call (.replace "tenant" "web-shop" record) after ∧
        record.metadata.resourceVersion = some "100" ∧
        ∃ f, ((next sampleAnswer).run MemoryStore.backing.answer suspendedStore).1 = .error f := by
  obtain ⟨-, hupdates⟩ := empty_fields_are_absent_iff MemoryStore.versioned_backing sampleType (some "tenant")
  rcases hupdates "shop" (sampleUpdater { name := some "", ns := some "" }) false with
    ⟨hmissing, -⟩ | ⟨ns, next, next', hns, hupdate, -, hnext⟩
  · exact absurd hmissing (by decide)
  · cases hns
    obtain ⟨-, hreplaced⟩ := hnext sampleAnswer
    have hkept : ¬ sampleType.Blanks "tenant" "shop" (sampleUpdater { name := some "", ns := some "" })
        sampleAnswer := by
      rintro ⟨release, app, -, ⟨⟩, -, hversion, -⟩
      cases hversion
    have hasks : sampleType.AsksNoVersion "shop" (sampleUpdater { name := some "", ns := some "" }) sampleAnswer :=
      ⟨_, _, rfl, rfl, rfl⟩
    obtain ⟨found, hfound, hversion⟩ : ∃ found, sampleAnswer = .ok found ∧
      found.metadata.resourceVersion = some "100" := ⟨_, rfl, rfl⟩
    refine ⟨next, hupdate, ?_⟩
    rcases hreplaced hkept hasks found hfound with ⟨f, hfailed⟩ | ⟨record, after, hcall, hcarried, hfails⟩
    · rw [sampleType.update_run (by decide)] at hupdate
      cases hupdate
      cases hfailed
    · obtain ⟨hfailed, -⟩ := hfails Unit shopStore.1 suspendedStore _ shopStore.2 rfl linked_suspendedStore
        ⟨_, List.mem_singleton.mpr rfl, rfl, .inl ⟨_, rfl⟩⟩
      exact ⟨record, after, hcall, hcarried.trans hversion, hfailed⟩

/-- With an empty version an update overwrites what another client has written in the meantime.  Without one it is
refused. -/
theorem empty_version_overwrites :
    ∃ next next' record after,
      (sampleType.update (some "tenant") "shop" (sampleUpdater { resourceVersion := some "" }) false).run =
        .call (.get "tenant" "web-shop") next ∧
      (sampleType.update (some "tenant") "shop" (fun current =>
          (sampleUpdater { resourceVersion := some "" } current).map Application.withoutEmpty) false).run =
        .call (.get "tenant" "web-shop") next' ∧
      next sampleAnswer = .call (.replace "tenant" "web-shop" record) after ∧
      record.metadata.resourceVersion = some "" ∧
      (MemoryStore.backing.find? suspendedStore "tenant" "web-shop").bind (·.at? ["spec", "suspend"]) =
        some (.bool true) ∧
      (MemoryStore.backing.find? ((next sampleAnswer).run MemoryStore.backing.answer suspendedStore).2
        "tenant" "web-shop").bind (·.at? ["spec", "suspend"]) = none ∧
      ∃ f, ((next' sampleAnswer).run MemoryStore.backing.answer suspendedStore).1 = .error f :=
  ⟨_, _, _, _, sampleType.update_run (by decide) _ _ _, sampleType.update_run (by decide) _ _ _, rfl, rfl, rfl, rfl, _,
    rfl⟩

end ResourceDefinition

end AppGateway
