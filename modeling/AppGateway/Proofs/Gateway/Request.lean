import AppGateway.Proofs.Backing.Store
import AppGateway.Proofs.Gateway.Program

/-!
# Requests, and runs of them

The calls on applications as data, so that sequences of them can be run.  `ResourceDefinition.trace` runs requests one
after another on a store and tells for each of them what it found, what it gave and what it left.

A request without a namespace is over before the store is asked anything (`namespaceRequired_run`).  `perform_get`,
`perform_list`, `perform_create_of_ok` and `perform_create_of_error` say what a request makes of a store with one call.
-/

namespace AppGateway

namespace Exchange

variable {α β σ : Type}

theorem run_andThen (answer : (c : BackingCall) → σ → c.Answer × σ) (e : Exchange α) (f : α → Exchange β) (s : σ) :
    (e.andThen f).run answer s = (f (e.run answer s).1).run answer (e.run answer s).2 := by
  induction e generalizing s with
  | done a => rfl
  | call c next ih => exact ih _ _

/-- What is done with the result leaves the store as it is. -/
theorem run_andThen_done (answer : (c : BackingCall) → σ → c.Answer × σ) (e : Exchange α) (f : α → β) (s : σ) :
    (e.andThen fun a => .done (f a)).run answer s = (f (e.run answer s).1, (e.run answer s).2) := by
  rw [run_andThen]
  rfl

/-- The calls that a program makes when a rule answers them, in order. -/
def calls (answer : (c : BackingCall) → σ → c.Answer × σ) : Exchange α → σ → List BackingCall
  | .done _, _ => []
  | .call c next, s => c :: calls answer (next (answer c s).1) (answer c s).2

/-- What is done with the result makes no calls. -/
theorem calls_andThen_done (answer : (c : BackingCall) → σ → c.Answer × σ) (e : Exchange α) (f : α → β) (s : σ) :
    (e.andThen fun a => .done (f a)).calls answer s = e.calls answer s := by
  induction e generalizing s with
  | done a => rfl
  | call c next ih => exact congrArg (List.cons c) (ih _ _)

end Exchange

namespace Action

/-- How a result is put makes no difference to the store. -/
theorem run_map {α β σ : Type} (answer : (c : BackingCall) → σ → c.Answer × σ) (x : Action α) (f : α → β)
    (s : σ) : ((x >>= fun a => pure (f a)).run).run answer s =
      ((x.run.run answer s).1.map f, (x.run.run answer s).2) := by
  rw [run_bind, Exchange.run_andThen]
  cases (x.run.run answer s).1 <;> rfl

end Action

/-- A call on applications. -/
inductive ApplicationCall where
  | create (app : Application)
  | get (name : String)
  | list (options : ListOptions)
  | update (name : String) (updater : Option Application → Except Failure Application) (mayCreate : Bool)
  | patch (name : String) (p : Patch)
  | delete (name : String)

/-- What a call on applications gives. -/
inductive ApplicationReply where
  | one (app : Application)
  | many (list : ApplicationList)
  | stored (app : Application) (created : Bool)
  | gone
deriving Repr, BEq

namespace ApplicationCall

/-- What a call is about to do. -/
def operation : ApplicationCall → Operation
  | .create _ => .create
  | .get _ => .get
  | .list _ => .list
  | .update .. => .update
  | .patch .. => .patch
  | .delete _ => .delete

/-- The name of the application that a call addresses. -/
def name? : ApplicationCall → Option String
  | .create app => some app.name
  | .get name => some name
  | .list _ => none
  | .update name .. => some name
  | .patch name _ => some name
  | .delete name => some name

end ApplicationCall

/-- One request of a run: what it found, what it gave and what it left. -/
structure Performed (σ : Type) where
  ns : Option String
  call : ApplicationCall
  before : σ
  reply : Except Failure ApplicationReply
  after : σ

namespace ResourceDefinition

variable {σ : Type} (d : ResourceDefinition)

/-- The program of a call in a namespace. -/
def action (ns : Option String) : ApplicationCall → Action ApplicationReply
  | .create app => do return .one (← d.create ns app)
  | .get name => do return .one (← d.get ns name)
  | .list options => do return .many (← d.list ns options)
  | .update name updater mayCreate => do
    let written ← d.update ns name updater mayCreate
    return .stored written.1 written.2
  | .patch name p => do return .one (← d.patch ns name p)
  | .delete name => do
    d.delete ns name
    return .gone

/-- Runs a call in a namespace on a store. -/
def perform (b : BackingStore σ) (ns : Option String) (call : ApplicationCall) (s : σ) :
    Except Failure ApplicationReply × σ :=
  (d.action ns call).run.run b.answer s

/-- Runs requests one after another. -/
def trace (b : BackingStore σ) : List (Option String × ApplicationCall) → σ → List (Performed σ)
  | [], _ => []
  | (ns, call) :: rest, s =>
    ⟨ns, call, s, (d.perform b ns call s).1, (d.perform b ns call s).2⟩ :: trace b rest (d.perform b ns call s).2

/-- Without a namespace no call asks the store for anything. -/
theorem namespaceRequired_run {ns : Option String} (h : ns.getD "" = "") (call : ApplicationCall) :
    (d.action ns call).run = .done (.error (.namespaceRequired call.operation)) := by
  cases call with
  | create app => rw [action, Action.run_bind, create, requireNamespace_of_missing _ h, Action.run_of_bind]; rfl
  | get name => rw [action, Action.run_bind, get, requireNamespace_of_missing _ h, Action.run_of_bind]; rfl
  | list options => rw [action, Action.run_bind, list, requireNamespace_of_missing _ h, Action.run_of_bind]; rfl
  | update name updater mayCreate =>
    rw [action, Action.run_bind, update, requireNamespace_of_missing _ h, Action.run_of_bind]; rfl
  | patch name p => rw [action, Action.run_bind, patch, requireNamespace_of_missing _ h, Action.run_of_bind]; rfl
  | delete name => rw [action, Action.run_bind, delete, requireNamespace_of_missing _ h, Action.run_of_bind]; rfl

variable {d} {ns : String}

theorem perform_get (b : BackingStore σ) (h : ns ≠ "") (name : String) (s : σ) :
    d.perform b (some ns) (.get name) s =
      (((d.fetched .get name (b.reply (.get ns (d.names.toBacking name)) s)).map d.toApplication).map .one,
        b.after (.get ns (d.names.toBacking name)) s) := by
  rw [perform, action, Action.run_map, d.get_run h]
  rfl

theorem perform_list (b : BackingStore σ) (h : ns ≠ "") (options : ListOptions) (s : σ) :
    d.perform b (some ns) (.list options) s =
      ((((b.reply (.list ns options.labels options.fields) s).mapError (Failure.ofBacking .list ns)).map fun found =>
          ApplicationList.ofItems d.application.kind found.resourceVersion (found.items.filterMap d.shown?)).map .many,
        b.after (.list ns options.labels options.fields) s) := by
  rw [perform, action, Action.run_map, d.list_run h]
  rfl

theorem perform_create_of_error (b : BackingStore σ) (h : ns ≠ "") {app : Application} {failure : Failure}
    (hrecord : d.createdRecord ns app = .error failure) (s : σ) :
    d.perform b (some ns) (.create app) s = (.error failure, s) := by
  rw [perform, action, Action.run_map, d.create_run h, hrecord]
  rfl

theorem perform_create_of_ok (b : BackingStore σ) (h : ns ≠ "") {app : Application} {name : String} {record : Record}
    (hrecord : d.createdRecord ns app = .ok (name, record)) (s : σ) :
    d.perform b (some ns) (.create app) s =
      ((d.projected .create name (b.reply (.create ns record) s)).map .one, b.after (.create ns record) s) := by
  rw [perform, action, Action.run_map, d.create_run h, hrecord]
  rfl

end ResourceDefinition

end AppGateway
