import AppGateway.Proofs.Gateway.Frame
import AppGateway.Proofs.Gateway.Written
import AppGateway.Proofs.Mapping
import AppGateway.Proofs.Resource.Decoded

/-!
# What writes of a type do to a namespace

A creation, an update and a deletion leave the objects of a namespace as they are, or they put an object of the type
where none or one of the type was, or they remove an object of the type (`ResourceDefinition.Moved`).  The application
that is written may be any; a null as its values is stored, and read as none.

* (writing) `createdRecord_cases`, `updatedRecord_cases`: what is sent is the written form of a release of the type, or
  nothing is sent;
* (stored) `owns_sent`: what is stored of it belongs to the type;
* (result) `perform_moved`.
-/

namespace AppGateway

namespace ResourceDefinition

variable (d : ResourceDefinition) {ns name : String}

/-- A creation sends the release of an application, or nothing. -/
theorem createdRecord_cases (ns : String) (app : Application) :
    (∃ failure, d.createdRecord ns app = .error failure) ∨
      ∃ name, d.createdRecord ns app = .ok (name, (d.toRelease (app.addressedAs name ns) none).toStored) := by
  cases hfit : app.addressedName? none ns with
  | none =>
    obtain ⟨message, hm⟩ := d.createdRecord_of_none hfit
    exact .inl ⟨_, hm⟩
  | some name =>
    exact .inr ⟨name, d.createdRecord_of_some hfit⟩

/-- An update sends the release of an application over what it has found, or nothing. -/
theorem updatedRecord_cases (ns name : String) (updater : Option Application → Except Failure Application)
    {stored : Option Release} (hstored : ∀ r, stored = some r → r.Rereads) :
    (∃ failure, d.updatedRecord ns name updater stored = .error failure) ∨
      ∃ app : Application, d.updatedRecord ns name updater stored =
        .ok (d.toRelease (app.addressedAs name ns) stored).toStored := by
  rw [updatedRecord]
  cases updater (stored.map d.toApplication) with
  | error failure => exact .inl ⟨failure, rfl⟩
  | ok app =>
    rw [Except.ok_bind]
    cases hfit : app.addressedName? (some name) ns with
    | none =>
      obtain ⟨message, hm⟩ := d.writtenRecord_of_none stored hfit
      exact .inl ⟨_, hm⟩
    | some n =>
      cases addressedName?_eq hfit
      refine .inr ⟨app, ?_⟩
      rw [d.writtenRecord_of_some hfit, writeRelease_of_settled (d.toRelease_settled_rereads _ hstored)]

variable {d}

theorem owns_settled {r : Release} (h : r.settled.Rereads) : d.owns r.toJson = d.inScope r := by
  rw [owns, record_settled h, Option.bind_some, d.shown?_settled h]
  cases d.inScope r <;> rfl

/-- What the store makes of a written release is of the type. -/
theorem owns_sent (app : Application) {stored : Option Release} (hstored : ∀ r, stored = some r → r.Rereads)
    (v : String) : d.owns (MemoryStore.withVersion v (d.toRelease app stored).toStored.toJson) = true := by
  have hsettled := Release.settled_versioned_rereads (d.toRelease_settled_rereads app hstored) v
  rw [Release.withVersion_toStored, owns_settled hsettled, d.inScope_versioned, d.inScope_toRelease]

variable (d) in
/-- What a call makes of the objects of a namespace that writes applications of a type. -/
inductive Moved (m : Directory Json) : Directory Json → Prop
  | kept : Moved m m
  | put (name : String) (j : Json) (hj : d.owns j = true)
      (hold : ∀ old, m.find? (d.names.toBacking name) = some old → d.owns old = true) :
      Moved m (m.set (d.names.toBacking name) j)
  | removed (name : String) (old : Json) (hfind : m.find? (d.names.toBacking name) = some old)
      (hold : d.owns old = true) : Moved m (m.erase (d.names.toBacking name))

variable {σ : Type} {b : BackingStore σ} {issued : σ → String → Prop} {s : σ}

private theorem create_moved (h : b.Faithful issued) {app : Application} {name : String}
    (happ : (d.toRelease app none).name = d.names.toBacking name) :
    d.Moved (b.contents s ns) (b.contents (b.after (.create ns (d.toRelease app none).toStored) s) ns) := by
  have hname : (d.toRelease app none).toStored.name = d.names.toBacking name := happ
  cases hfind : b.find? s ns (d.toRelease app none).toStored.name with
  | some j =>
    rw [(h.create_present hfind).2]
    exact .kept
  | none =>
    obtain ⟨v, -, -, -, -, hcontents⟩ := h.create_absent hfind
    rw [hcontents, hname]
    refine .put name _ (owns_sent app (by simp) v) fun old hold => ?_
    rw [hname] at hfind
    cases hfind.symm.trans hold

private theorem replace_moved (h : b.Faithful issued) {app : Application} {name : String} {stored : Option Release}
    (hstored : ∀ r, stored = some r → r.Rereads) {old : Json}
    (hfind : b.find? s ns (d.names.toBacking name) = some old) (hold : d.owns old = true) :
    d.Moved (b.contents s ns)
      (b.contents (b.after (.replace ns (d.names.toBacking name) (d.toRelease app stored).toStored) s) ns) := by
  by_cases hcurrent : ∀ v, (d.toRelease app stored).toStored.metadata.resourceVersion = some v →
      v = "" ∨ v = storedVersion old
  · obtain ⟨v, -, -, -, -, hcontents⟩ := h.replace_current hfind hcurrent
    rw [hcontents]
    refine .put name _ (owns_sent app hstored v) fun old' hold' => ?_
    cases hfind.symm.trans hold'
    exact hold
  · push Not at hcurrent
    obtain ⟨v, hv, hne, hstale⟩ := hcurrent
    rw [(h.replace_stale hfind hv hne hstale).2]
    exact .kept

/-- What was fetched is stored as an object of the type. -/
theorem of_fetched_stored (h : b.Faithful issued) {operation : Operation} {key : String} {release : Release}
    (hr : d.fetched operation name (b.reply (.get ns key) s) = .ok release) :
    release.Rereads ∧ ∃ j, b.find? s ns key = some j ∧ d.owns j = true := by
  obtain ⟨record, hget, hrelease, hscope⟩ := d.of_fetched hr
  refine ⟨Release.rereads_of_ofRecord hrelease, ?_⟩
  cases hfind : b.find? s ns key with
  | none =>
    obtain ⟨⟨e, -, hreply⟩, -⟩ := h.get_missing hfind
    cases hreply.symm.trans hget
  | some j =>
    rw [(h.get_present hfind).1] at hget
    obtain ⟨j', hj', hrecord⟩ := MemoryStore.asRecord_eq_ok hget
    cases hj'
    exact ⟨j, rfl, by simp [owns, hrecord, shown?, hrelease, hscope]⟩

private theorem update_moved (h : b.Faithful issued) (hns : ns ≠ "") (name : String)
    (updater : Option Application → Except Failure Application) (mayCreate : Bool) :
    d.Moved (b.contents s ns)
      (b.contents ((d.update (some ns) name updater mayCreate).run.run b.answer s).2 ns) := by
  rw [update_run d hns]
  show d.Moved (b.contents s ns)
    (b.contents ((d.afterFetch ns name updater mayCreate (b.reply (.get ns (d.names.toBacking name)) s)).run b.answer
      (b.after (.get ns (d.names.toBacking name)) s)).2 ns)
  have hkept := h.contents_after_get s ns (d.names.toBacking name)
  rw [← hkept, afterFetch]
  cases hstored : d.fetchedForUpdate name mayCreate (b.reply (.get ns (d.names.toBacking name)) s) with
  | error failure => exact .kept
  | ok stored =>
    have hfound : ∀ r, stored = some r →
        r.Rereads ∧ ∃ j, b.find? s ns (d.names.toBacking name) = some j ∧ d.owns j = true := by
      rintro r rfl
      exact of_fetched_stored h (d.fetched_of_fetchedForUpdate hstored)
    have hrereads : ∀ r, stored = some r → r.Rereads := fun r hr => (hfound r hr).1
    rcases d.updatedRecord_cases ns name updater hrereads with ⟨failure, hrecord⟩ | ⟨app, hrecord⟩
    · simp only [hrecord]
      exact .kept
    · simp only [hrecord]
      cases stored with
      | none => exact create_moved h rfl
      | some release =>
        obtain ⟨-, j, hj, howns⟩ := hfound release rfl
        exact replace_moved h hrereads ((h.find?_after_get _ _ _ _).trans hj) howns

private theorem delete_moved (h : b.Faithful issued) (hns : ns ≠ "") (name : String) :
    d.Moved (b.contents s ns) (b.contents ((d.delete (some ns) name).run.run b.answer s).2 ns) := by
  have hkept := h.contents_after_get s ns (d.names.toBacking name)
  rw [delete_run d hns, Exchange.run, ← hkept]
  cases hfetched : d.fetched .delete name (b.answer (.get ns (d.names.toBacking name)) s).1 with
  | error failure => exact .kept
  | ok release =>
    obtain ⟨-, j, hj, howns⟩ := of_fetched_stored h hfetched
    have hfind := (h.find?_after_get s ns (d.names.toBacking name) (d.names.toBacking name)).trans hj
    show d.Moved _ (b.contents (b.after (.delete ns (d.names.toBacking name))
      (b.after (.get ns (d.names.toBacking name)) s)) ns)
    rw [(h.delete_present hfind).2]
    exact .removed name j hfind howns

end ResourceDefinition

namespace ApplicationCall

/-- The calls that write what an application says. -/
def Writes : ApplicationCall → Prop
  | .create _ | .update .. | .delete _ => True
  | _ => False

end ApplicationCall

namespace ResourceDefinition

variable {σ : Type} {d : ResourceDefinition} {b : BackingStore σ} {issued : σ → String → Prop} {s : σ}

/-- A creation, an update or a deletion moves no objects but those of the type. -/
theorem perform_moved (h : b.Faithful issued) (d : ResourceDefinition) (ns : String) {call : ApplicationCall}
    (hcall : call.Writes) (s : σ) :
    d.Moved (b.contents s ns) (b.contents (d.perform b (some ns) call s).2 ns) := by
  by_cases hns : ns = ""
  · have hrun := d.namespaceRequired_run (show (some ns).getD "" = "" from hns) call
    rw [perform, hrun]
    exact .kept
  · cases call with
    | create app =>
      rcases d.createdRecord_cases ns app with ⟨failure, hrecord⟩ | ⟨name, hrecord⟩
      · rw [perform_create_of_error b hns hrecord]
        exact .kept
      · rw [perform_create_of_ok b hns hrecord]
        exact create_moved h rfl
    | update name updater mayCreate =>
      rw [perform, action, Action.run_map]
      exact update_moved h hns name updater mayCreate
    | delete name =>
      rw [perform, action, Action.run_map]
      exact delete_moved h hns name
    | _ => exact hcall.elim

end ResourceDefinition

end AppGateway
