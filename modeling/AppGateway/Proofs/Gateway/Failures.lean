import AppGateway.Proofs.Gateway.Request
import AppGateway.Proofs.Gateway.Written

/-!
# Where failures come from

A failure takes its status code from the backing store only when the store answered with an error of its own, and then
the code is that of the error, whatever it is (`Failure.code_cases`).  The failures of a call on applications that name
an error of the store name one that the store has answered with (`ResourceDefinition.action_sourced`,
`ResourceDefinition.watch_sourced`): nothing else in a call makes such a failure.
-/

namespace AppGateway

namespace Failure

/-- The error of the backing store that a failure names. -/
def source? : Failure → Option BackingError
  | .backingFailed _ _ source => some source
  | _ => none

/-- A failure has the code of an error, or it is an answer of the backing store that has the code of no error. -/
theorem code_cases (f : Failure) :
    400 ≤ f.code ∨ ∃ e, f.source? = some (.api e) ∧ f.code = e.code ∧ 100 ≤ e.code ∧ e.code < 400 := by
  cases f with
  | backingFailed operation name source =>
    cases source with
    | api e =>
      by_cases hcode : 100 ≤ e.code ∧ e.code ≤ 999
      · have heq : (Failure.backingFailed operation name (.api e)).code = e.code := if_pos hcode
        by_cases hlow : 400 ≤ e.code
        · exact .inl (heq ▸ hlow)
        · exact .inr ⟨e, rfl, heq, hcode.1, Nat.lt_of_not_le hlow⟩
      · have heq : (Failure.backingFailed operation name (.api e)).code = 500 := if_neg hcode
        exact .inl (by rw [heq]; decide)
    | _ => exact .inl (by simp [code])
  | _ => exact .inl (by simp [code])

/-- The backing error in a failure is the one that it was made of. -/
theorem source?_ofBacking {operation : Operation} {name : String} {e source : BackingError}
    (h : (ofBacking operation name e).source? = some source) : source = e := by
  cases e with
  | api response =>
    rw [ofBacking] at h
    split at h
    · cases h
    · exact (Option.some.inj h).symm
  | _ => exact (Option.some.inj h).symm

/-- The failures of a result are the gateway's own: they name no error of the backing store. -/
def Own {α : Type} (r : Except Failure α) : Prop := ∀ f, r = .error f → f.source? = none

variable {α β : Type}

theorem own_ok (a : α) : Own (.ok a) := by
  rintro f ⟨⟩

theorem own_error {f : Failure} (h : f.source? = none) : Own (α := α) (.error f) := by
  rintro _ ⟨⟩
  exact h

private theorem Own.bind {r : Except Failure α} {f : α → Except Failure β} (hr : Own r) (hf : ∀ a, Own (f a)) :
    Own (r >>= f) := by
  cases r with
  | error failure => exact own_error (hr failure rfl)
  | ok a => exact hf a

theorem Own.map {r : Except Failure α} (hr : Own r) (f : α → β) : Own (r.map f) := by
  cases r with
  | error failure => exact own_error (hr failure rfl)
  | ok a => exact own_ok _

private theorem own_mapError {ε : Type} (r : Except ε α) {f : ε → Failure} (h : ∀ e, (f e).source? = none) :
    Own (r.mapError f) := by
  cases r with
  | error e => exact own_error (h e)
  | ok a => exact own_ok a

end Failure

namespace Exchange

variable {α β σ : Type}

/-- The errors that the calls of a program are answered with when a rule answers them, in order. -/
def errors (answer : (c : BackingCall) → σ → c.Answer × σ) : Exchange α → σ → List BackingError
  | .done _, _ => []
  | .call c next, s =>
    match (answer c s).1 with
    | .ok _ => errors answer (next (answer c s).1) (answer c s).2
    | .error e => e :: errors answer (next (answer c s).1) (answer c s).2

/-- The errors of an exchange come before those of what it goes on with. -/
theorem errors_andThen (answer : (c : BackingCall) → σ → c.Answer × σ) (e : Exchange α) (f : α → Exchange β) (s : σ) :
    (e.andThen f).errors answer s =
      e.errors answer s ++ (f (e.run answer s).1).errors answer (e.run answer s).2 := by
  induction e generalizing s with
  | done a => rfl
  | call c next ih =>
    rw [andThen, errors, errors, run, ih]
    split <;> rfl

end Exchange

namespace Action

variable {α β : Type}

/-- The errors of the backing store that the failures of an action name are errors that the store answered with. -/
def Sourced (x : Action α) : Prop :=
  ∀ (σ : Type) (answer : (c : BackingCall) → σ → c.Answer × σ) (s : σ) (f : Failure) (e : BackingError),
    (x.run.run answer s).1 = .error f → f.source? = some e → e ∈ x.run.errors answer s

private theorem sourced_of {r : Except Failure α} (h : Failure.Own r) : Sourced (of r) := by
  intro σ answer s f e hr hsource
  rw [h f hr] at hsource
  cases hsource

private theorem sourced_ask (operation : Operation) (name : String) (c : BackingCall) : Sourced
    (ask operation name c) := by
  intro σ answer s f e hr hsource
  have hresult : (answer c s).1.mapError (Failure.ofBacking operation name) = .error f := hr
  show e ∈ Exchange.errors answer (.call c _) s
  rw [Exchange.errors]
  cases hanswer : (answer c s).1 with
  | ok a =>
    rw [hanswer] at hresult
    cases hresult
  | error source =>
    rw [hanswer] at hresult
    cases hresult
    exact List.mem_cons.mpr (.inl (Failure.source?_ofBacking hsource))

theorem sourced_of_bind {r : Except Failure α} {f : α → Action β} (hr : Failure.Own r)
    (hf : ∀ a, r = .ok a → Sourced (f a)) : Sourced (of r >>= f) := by
  cases r with
  | error failure => exact sourced_of (Failure.own_error (hr failure rfl))
  | ok a => exact hf a rfl

/-- Actions whose failures have sources go on one after another as one such action. -/
theorem Sourced.bind {x : Action α} {f : α → Action β} (hx : Sourced x) (hf : ∀ a, Sourced (f a)) :
    Sourced (x >>= f) := by
  intro σ answer s failure e hr hsource
  rw [run_bind] at hr ⊢
  rw [Exchange.run_andThen] at hr
  rw [Exchange.errors_andThen, List.mem_append]
  cases hresult : (x.run.run answer s).1 with
  | ok a =>
    rw [hresult] at hr
    exact .inr (hf a σ answer _ failure e hr hsource)
  | error f₀ =>
    rw [hresult] at hr
    cases hr
    exact .inl (hx σ answer s failure e hresult hsource)

theorem sourced_pure (a : α) : Sourced (pure a : Action α) := sourced_of (Failure.own_ok a)

end Action

namespace ResourceDefinition

open Failure AppGateway.Action

variable (d : ResourceDefinition)

private theorem own_requireNamespace (operation : Operation) (ns : Option String) : Own
    (requireNamespace operation ns) := by
  by_cases h : ns.getD "" = ""
  · rw [requireNamespace_of_missing operation h]
    exact own_error rfl
  · cases ns with
    | none => exact absurd rfl h
    | some ns =>
      have hne : ns ≠ "" := h
      rw [requireNamespace_of_ne operation hne]
      exact own_ok ns

private theorem own_addressed (app : Application) (name : Option String) (ns : String) : Own (app.addressed name ns) :=
    by
  cases hfit : app.addressedName? name ns with
  | none =>
    obtain ⟨message, hm⟩ := Application.addressed_of_none hfit
    rw [hm]
    exact own_error rfl
  | some n =>
    rw [Application.addressed_of_some hfit]
    exact own_ok _

private theorem own_writeRelease (operation : Operation) (name : String) (release : Release) :
    Own (writeRelease operation name release) :=
  own_mapError _ fun _ => rfl

/-- A record that is no release of the type is refused without an error of the backing store. -/
theorem own_readInScope (operation : Operation) (name : String) (record : Record) :
    Own (d.readInScope operation name record) := by
  refine Own.bind (own_mapError _ fun _ => rfl) fun release => ?_
  split
  · exact own_ok release
  · exact own_error rfl

theorem own_project (operation : Operation) (name : String) (record : Record) :
    Own (d.project operation name record) :=
  Own.map (own_mapError _ fun _ => rfl) _

private theorem fetch_sourced (operation : Operation) (ns name : String) : Sourced (d.fetch operation ns name) :=
  (sourced_ask _ _ _).bind fun record => sourced_of (d.own_readInScope operation name record)

/-- A release that is not found is no error of the backing store to an update. -/
private theorem fetchForUpdate_sourced (ns name : String) (mayCreate : Bool) :
    Sourced (d.fetchForUpdate ns name mayCreate) := by
  intro σ answer s f e hr hsource
  have hfetch := d.fetch_sourced .update ns name σ answer s
  rw [fetchForUpdate_run] at hr ⊢
  rw [fetch_run] at hfetch
  have hresult : d.fetchedForUpdate name mayCreate (answer (.get ns (d.names.toBacking name)) s).1 = .error f := hr
  refine hfetch f e ?_ hsource
  show d.fetched .update name (answer (.get ns (d.names.toBacking name)) s).1 = .error f
  rw [fetchedForUpdate] at hresult
  split at hresult
  · cases hresult
  · split at hresult
    · cases hresult
    · cases hresult
      cases hsource
  · rename_i failure _ hfetched
    cases hresult
    exact hfetched

private theorem create_sourced (ns : Option String) (app : Application) : Sourced (d.create ns app) :=
  (sourced_of (own_requireNamespace _ _)).bind fun ns =>
    (sourced_of (own_addressed app none ns)).bind fun app =>
      (sourced_of (own_writeRelease _ _ _)).bind fun _ =>
        (sourced_ask _ _ _).bind fun created => sourced_of (d.own_project .create app.name created)

private theorem get_sourced (ns : Option String) (name : String) : Sourced (d.get ns name) :=
  (sourced_of (own_requireNamespace _ _)).bind fun ns => (d.fetch_sourced .get ns name).bind fun _ => sourced_pure _

private theorem list_sourced (ns : Option String) (options : ListOptions) : Sourced (d.list ns options) :=
  (sourced_of (own_requireNamespace _ _)).bind fun _ => (sourced_ask _ _ _).bind fun _ => sourced_pure _

private theorem storeUpdated_sourced (ns name : String) (stored : Option Release) (app : Application) :
    Sourced (d.storeUpdated ns name stored app) := by
  refine (sourced_of (own_addressed app (some name) ns)).bind fun app =>
    (sourced_of (own_writeRelease _ _ _)).bind fun record => ?_
  cases stored with
  | some release =>
    exact (sourced_ask _ _ _).bind fun written =>
      (sourced_of (d.own_project .update name written)).bind fun _ => sourced_pure _
  | none =>
    exact (sourced_ask _ _ _).bind fun written =>
      (sourced_of (d.own_project .update name written)).bind fun _ => sourced_pure _

private theorem update_sourced (ns : Option String) (name : String)
    {updater : Option Application → Except Failure Application} (hupdater : ∀ current, Own (updater current))
    (mayCreate : Bool) : Sourced (d.update ns name updater mayCreate) :=
  (sourced_of (own_requireNamespace _ _)).bind fun ns =>
    (d.fetchForUpdate_sourced ns name mayCreate).bind fun stored =>
      (sourced_of (hupdater _)).bind fun app => d.storeUpdated_sourced ns name stored app

private theorem patch_sourced (ns : Option String) (name : String) (p : Patch) : Sourced (d.patch ns name p) :=
  (sourced_of (own_requireNamespace _ _)).bind fun ns =>
    (d.fetch_sourced .patch ns name).bind fun _ =>
      (sourced_ask _ _ _).bind fun patched => sourced_of (d.own_project .patch name patched)

private theorem delete_sourced (ns : Option String) (name : String) : Sourced (d.delete ns name) :=
  (sourced_of (own_requireNamespace _ _)).bind fun ns =>
    (d.fetch_sourced .delete ns name).bind fun _ => sourced_ask _ _ _

theorem watch_sourced (ns : Option String) (options : ListOptions) : Sourced (d.watch ns options) :=
  (sourced_of (own_requireNamespace _ _)).bind fun _ => sourced_ask _ _ _

/-- A call whose updater, if it has one, does not make up errors of the backing store names only errors that the store
has answered with. -/
theorem action_sourced (ns : Option String) {call : ApplicationCall}
    (hupdater : ∀ name updater mayCreate, call = .update name updater mayCreate → ∀ current, Own (updater current)) :
    Sourced (d.action ns call) := by
  cases call with
  | create app => exact (d.create_sourced ns app).bind fun _ => sourced_pure _
  | get name => exact (d.get_sourced ns name).bind fun _ => sourced_pure _
  | list options => exact (d.list_sourced ns options).bind fun _ => sourced_pure _
  | update name updater mayCreate =>
    exact (d.update_sourced ns name (hupdater name updater mayCreate rfl) mayCreate).bind fun _ => sourced_pure _
  | patch name p => exact (d.patch_sourced ns name p).bind fun _ => sourced_pure _
  | delete name => exact (d.delete_sourced ns name).bind fun _ => sourced_pure _

end ResourceDefinition

end AppGateway
