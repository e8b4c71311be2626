import AppGateway.Gateway.Applications

/-!
# Calls on applications as programs

What each call on applications asks of the backing store, and what it makes of the answers: `create_run`, `get_run`,
`list_run`, `update_run`, `patch_run` and `delete_run` give the exchange that a call in a namespace is.
-/

namespace AppGateway

theorem Except.ok_bind {ε α β : Type} (a : α) (f : α → Except ε β) : (Except.ok a >>= f) = f a := rfl

theorem Except.mapError_ok {ε ε' α : Type} (a : α) (f : ε → ε') : (Except.ok a).mapError f = .ok a := rfl

theorem Except.of_bind_eq_ok {ε α β : Type} {x : Except ε α} {f : α → Except ε β} {b : β} (h : (x >>= f) = .ok b) :
    ∃ a, x = .ok a ∧ f a = .ok b := by
  cases x with
  | error e => cases h
  | ok a => exact ⟨a, rfl, h⟩

theorem Except.of_map_eq_ok {ε α β : Type} {x : Except ε α} {f : α → β} {b : β} (h : x.map f = .ok b) :
    ∃ a, x = .ok a ∧ f a = b := by
  cases x with
  | error e => cases h
  | ok a => exact ⟨a, rfl, Except.ok.inj h⟩

theorem Except.of_mapError_eq_ok {ε ε' α : Type} {x : Except ε α} {f : ε → ε'} {a : α} (h : x.mapError f = .ok a) :
    x = .ok a := by
  cases x <;> cases h
  rfl

theorem Except.map_map {ε α β γ : Type} (x : Except ε α) (f : α → β) (g : β → γ) :
    (x.map f).map g = x.map fun a => g (f a) := by
  cases x <;> rfl

namespace Action

variable {α β : Type}

/-- What an action goes on with after a value or a failure. -/
def next (f : α → Action β) : Except Failure α → Exchange (Except Failure β)
  | .ok a => (f a).run
  | .error failure => .done (.error failure)

/-- Actions are run one after another, as far as they succeed. -/
theorem run_bind (x : Action α) (f : α → Action β) : (x >>= f).run = x.run.andThen (next f) := by
  show Exchange.andThen x.run _ = _
  congr 1
  funext r
  cases r <;> rfl

/-- A value that is at hand asks the store nothing. -/
theorem run_of_bind (r : Except Failure α) (f : α → Action β) : (of r >>= f).run = next f r := by
  cases r <;> rfl

private theorem run_ask_bind (operation : Operation) (name : String) (c : BackingCall) (f : c.Result → Action β) :
    (ask operation name c >>= f).run =
      .call c fun answer => next f (answer.mapError (Failure.ofBacking operation name)) := by
  rw [run_bind]
  rfl

end Action

namespace ResourceDefinition

variable (d : ResourceDefinition) {ns : String}

/-- The release in the answer to a get, if it is one of this type. -/
def fetched (operation : Operation) (name : String) (answer : Except BackingError Record) : Except Failure Release := do
  d.readInScope operation name (← answer.mapError (Failure.ofBacking operation name))

/-- The application in the answer to a write. -/
def projected (operation : Operation) (name : String) (answer : Except BackingError Record) :
    Except Failure Application := do
  d.project operation name (← answer.mapError (Failure.ofBacking operation name))

/-- What an update makes of the answer to its get. -/
def fetchedForUpdate (name : String) (mayCreate : Bool) (answer : Except BackingError Record) :
    Except Failure (Option Release) :=
  match d.fetched .update name answer with
  | .ok release => .ok (some release)
  | .error (.backingNotFound name status) => if mayCreate then .ok none else .error (.backingNotFound name status)
  | .error failure => .error failure

/-- The record that is sent for an updated application. -/
def writtenRecord (ns name : String) (stored : Option Release) (app : Application) : Except Failure Record := do
  let app ← app.addressed (some name) ns
  writeRelease .update name (d.toRelease app stored)

/-- The record that an update sends, given what it has found. -/
def updatedRecord (ns name : String) (updater : Option Application → Except Failure Application)
    (stored : Option Release) : Except Failure Record := do
  d.writtenRecord ns name stored (← updater (stored.map d.toApplication))

/-- The record that a creation sends, and the name of its application. -/
def createdRecord (ns : String) (app : Application) : Except Failure (String × Record) := do
  let app ← app.addressed none ns
  return (app.name, ← writeRelease .create app.name (d.toRelease app none))

/-- A release that was fetched is the one in the record that was answered, and of this type. -/
theorem of_fetched {operation : Operation} {name : String} {answer : Except BackingError Record} {release : Release}
    (h : d.fetched operation name answer = .ok release) :
    ∃ record, answer = .ok record ∧ Release.ofRecord record = .ok release ∧ d.inScope release = true := by
  obtain ⟨record, hanswer, hread⟩ := Except.of_bind_eq_ok h
  obtain ⟨r, hr, hscope⟩ := Except.of_bind_eq_ok hread
  refine ⟨record, Except.of_mapError_eq_ok hanswer, ?_⟩
  split at hscope
  · rename_i hin
    cases hscope
    exact ⟨Except.of_mapError_eq_ok hr, hin⟩
  · cases hscope

/-- An update that goes on with a release has fetched it as any call does. -/
theorem fetched_of_fetchedForUpdate {name : String} {mayCreate : Bool} {answer : Except BackingError Record}
    {release : Release} (h : d.fetchedForUpdate name mayCreate answer = .ok (some release)) :
    d.fetched .update name answer = .ok release := by
  rw [fetchedForUpdate] at h
  split at h
  · rename_i r hr
    cases h
    exact hr
  · cases mayCreate <;> cases h
  · cases h

theorem requireNamespace_of_ne (operation : Operation) (h : ns ≠ "") :
    requireNamespace operation (some ns) = .ok ns := by
  simp [requireNamespace, h]

/-- An empty namespace counts as none. -/
theorem requireNamespace_of_missing {ns : Option String} (operation : Operation) (h : ns.getD "" = "") :
    requireNamespace operation ns = .error (.namespaceRequired operation) := by
  cases ns with
  | none => rfl
  | some ns =>
    simp only [Option.getD_some] at h
    simp [requireNamespace, h]

theorem fetch_run (operation : Operation) (name : String) :
    (d.fetch operation ns name).run =
      .call (.get ns (d.names.toBacking name)) fun answer => .done (d.fetched operation name answer) := by
  show Exchange.call _ _ = _
  congr 1
  funext answer
  cases answer <;> rfl

private theorem fetch_bind_run {β : Type} (operation : Operation) (name : String) (f : Release → Action β) :
    (d.fetch operation ns name >>= f).run =
      .call (.get ns (d.names.toBacking name)) fun answer => Action.next f (d.fetched operation name answer) := by
  rw [Action.run_bind, fetch_run]
  rfl

/-- A creation checks the application before it asks for anything, and then makes one call. -/
theorem create_run (h : ns ≠ "") (app : Application) :
    (d.create (some ns) app).run =
      match d.createdRecord ns app with
      | .error failure => .done (.error failure)
      | .ok (name, record) => .call (.create ns record) fun answer => .done (d.projected .create name answer) := by
  rw [create, requireNamespace_of_ne _ h, createdRecord, Action.run_of_bind, Action.next, Action.run_of_bind]
  cases app.addressed none ns with
  | error failure => rfl
  | ok app =>
    rw [Action.next, Action.run_of_bind, Except.ok_bind]
    cases writeRelease .create app.name (d.toRelease app none) with
    | error failure => rfl
    | ok record =>
      rw [Action.next, Action.run_ask_bind]
      show _ = Exchange.call _ _
      congr 1
      funext answer
      cases answer <;> rfl

theorem get_run (h : ns ≠ "") (name : String) :
    (d.get (some ns) name).run =
      .call (.get ns (d.names.toBacking name)) fun answer =>
        .done ((d.fetched .get name answer).map d.toApplication) := by
  rw [get, requireNamespace_of_ne _ h, Action.run_of_bind, Action.next, fetch_bind_run]
  congr 1
  funext answer
  cases d.fetched .get name answer <;> rfl

theorem list_run (h : ns ≠ "") (options : ListOptions) :
    (d.list (some ns) options).run =
      .call (.list ns options.labels options.fields) fun answer =>
        .done ((answer.mapError (Failure.ofBacking .list ns)).map fun records =>
          .ofItems d.application.kind records.resourceVersion (records.items.filterMap d.shown?)) := by
  rw [list, requireNamespace_of_ne _ h, Action.run_of_bind, Action.next, Action.run_ask_bind]
  congr 1
  funext answer
  cases answer <;> rfl

theorem fetchForUpdate_run (name : String) (mayCreate : Bool) :
    (d.fetchForUpdate ns name mayCreate).run =
      .call (.get ns (d.names.toBacking name)) fun answer => .done (d.fetchedForUpdate name mayCreate answer) := by
  show Exchange.andThen (d.fetch .update ns name).run _ = _
  rw [fetch_run]
  show Exchange.call _ _ = _
  congr 1
  funext answer
  rw [fetchedForUpdate]
  show Exchange.andThen (.done (d.fetched .update name answer)) _ = _
  rcases d.fetched .update name answer with failure | release
  · cases failure <;> rfl
  · rfl

/-- The write of an update: a replacement of the release it has found, or a creation. -/
def storeRecord (ns name : String) (stored : Option Release) (record : Record) :
    Exchange (Except Failure (Application × Bool)) :=
  match stored with
  | some _ => .call (.replace ns (d.names.toBacking name) record) fun answer =>
      .done ((d.projected .update name answer).map (·, false))
  | none => .call (.create ns record) fun answer => .done ((d.projected .update name answer).map (·, true))

/-- What an update goes on with once it has an answer to its get. -/
def afterFetch (ns name : String) (updater : Option Application → Except Failure Application) (mayCreate : Bool)
    (answer : Except BackingError Record) : Exchange (Except Failure (Application × Bool)) :=
  match d.fetchedForUpdate name mayCreate answer with
  | .error failure => .done (.error failure)
  | .ok stored =>
    match d.updatedRecord ns name updater stored with
    | .error failure => .done (.error failure)
    | .ok record => d.storeRecord ns name stored record

private theorem next_project (name : String) (created : Bool) (answer : Except BackingError Record) :
    Action.next (fun written => do return (← Action.of (d.project .update name written), created))
      (answer.mapError (Failure.ofBacking .update name)) =
        .done ((d.projected .update name answer).map (·, created)) := by
  cases answer with
  | error e => rfl
  | ok written =>
    show (Action.of (d.project .update name written) >>= _).run = .done ((d.project .update name written).map _)
    rw [Action.run_of_bind]
    cases d.project .update name written <;> rfl

theorem storeUpdated_run (name : String) (stored : Option Release) (app : Application) :
    (d.storeUpdated ns name stored app).run =
      match d.writtenRecord ns name stored app with
      | .error failure => .done (.error failure)
      | .ok record => d.storeRecord ns name stored record := by
  rw [storeUpdated, writtenRecord, Action.run_of_bind]
  cases app.addressed (some name) ns with
  | error failure => rfl
  | ok app =>
    rw [Action.next, Action.run_of_bind, Except.ok_bind]
    cases writeRelease .update name (d.toRelease app stored) with
    | error failure => rfl
    | ok record =>
      cases stored with
      | none =>
        rw [Action.next, Action.run_ask_bind]
        exact congrArg (Exchange.call (.create ns record)) (funext (d.next_project name true))
      | some release =>
        rw [Action.next, Action.run_ask_bind]
        exact congrArg (Exchange.call (.replace ns (d.names.toBacking name) record))
          (funext (d.next_project name false))

/-- An update reads the release, lets the updater see what is shown of it, and writes what that has made of it. -/
theorem update_run (h : ns ≠ "") (name : String) (updater : Option Application → Except Failure Application)
    (mayCreate : Bool) :
    (d.update (some ns) name updater mayCreate).run =
      .call (.get ns (d.names.toBacking name)) (d.afterFetch ns name updater mayCreate) := by
  rw [update, requireNamespace_of_ne _ h, Action.run_of_bind, Action.next, Action.run_bind, fetchForUpdate_run]
  show Exchange.call _ _ = _
  congr 1
  funext answer
  rw [afterFetch]
  show Exchange.andThen (.done _) _ = _
  cases d.fetchedForUpdate name mayCreate answer with
  | error failure => rfl
  | ok stored =>
    show (Action.of (updater (stored.map d.toApplication)) >>= _).run = _
    dsimp only
    rw [Action.run_of_bind, updatedRecord]
    cases updater (stored.map d.toApplication) with
    | error failure => rfl
    | ok app => exact d.storeUpdated_run name stored app

/-- A patch reads the release and passes the document on. -/
theorem patch_run (h : ns ≠ "") (name : String) (p : Patch) :
    (d.patch (some ns) name p).run =
      .call (.get ns (d.names.toBacking name)) fun answer =>
        match d.fetched .patch name answer with
        | .error failure => .done (.error failure)
        | .ok _ => .call (.patch ns (d.names.toBacking name) p) fun answer =>
            .done (d.projected .patch name answer) := by
  rw [patch, requireNamespace_of_ne _ h, Action.run_of_bind, Action.next, fetch_bind_run]
  congr 1
  funext answer
  cases d.fetched .patch name answer with
  | error failure => rfl
  | ok release =>
    rw [Action.next, Action.run_ask_bind]
    show Exchange.call _ _ = Exchange.call _ _
    congr 1
    funext answer
    cases answer <;> rfl

/-- A deletion reads the release before it deletes it. -/
theorem delete_run (h : ns ≠ "") (name : String) :
    (d.delete (some ns) name).run =
      .call (.get ns (d.names.toBacking name)) fun answer =>
        match d.fetched .delete name answer with
        | .error failure => .done (.error failure)
        | .ok _ => .call (.delete ns (d.names.toBacking name)) fun answer =>
            .done (answer.mapError (Failure.ofBacking .delete name)) := by
  rw [delete, requireNamespace_of_ne _ h, Action.run_of_bind, Action.next, fetch_bind_run]
  congr 1
  funext answer
  cases d.fetched .delete name answer <;> rfl

end ResourceDefinition

end AppGateway
