import AppGateway.Backing.Exchange
import AppGateway.Gateway.Failure
import AppGateway.Gateway.Registry
import AppGateway.Mapping

/-!
# Calls on applications

The calls that clients make on the applications of one type, each written as an exchange with the backing store.
Nothing is kept between calls: every read shows the releases as they are.

A release of another type that has the name of an application counts as no application.  A call that names no
namespace fails before anything is asked of the backing store.
-/

namespace AppGateway

/-- An exchange that may fail. -/
abbrev Action (α : Type) := ExceptT Failure Exchange α

/-- What a list or a watch is restricted to, and the version that a watch starts from. -/
structure ListOptions where
  labels : Option Selector := none
  fields : Option Selector := none
  resourceVersion : Option String := none
deriving DecidableEq, Repr, Inhabited

namespace Action

variable {α : Type}

/-- An action that does not ask anything of the backing store. -/
def of (result : Except Failure α) : Action α :=
  ExceptT.mk (.done result)

/-- Makes a call; an error is a failure of the operation on the named object. -/
def ask (operation : Operation) (name : String) (c : BackingCall) : Action c.Result :=
  ExceptT.mk (.call c fun answer => .done (answer.mapError (Failure.ofBacking operation name)))

end Action

namespace Application

/-- Fills the name and the namespace of a request into an application that lacks them, and refuses one that
contradicts them or has no name. -/
def addressed (app : Application) (name : Option String) (ns : String) : Except Failure Application := do
  let app ← match name with
    | none => pure app
    | some name =>
      let given := app.metadata.name.getD ""
      if given = "" then pure { app with metadata := { app.metadata with name := some name } }
      else if given = name then pure app
      else .error (.badRequest ("the name of the object (" ++ given
        ++ ") does not match the name on the URL (" ++ name ++ ")"))
  if app.name = "" then .error (.badRequest "name is required")
  else
    let given := app.metadata.ns.getD ""
    if given = "" then pure { app with metadata := { app.metadata with ns := some ns } }
    else if given = ns then pure app
    else .error (.badRequest ("the namespace of the provided object (" ++ given
      ++ ") does not match the namespace sent on the request (" ++ ns ++ ")"))

end Application

namespace ResourceDefinition

/-- The namespace of a request, which must not be empty. -/
def requireNamespace (operation : Operation) (ns : Option String) : Except Failure String :=
  match ns with
  | some ns => if ns = "" then .error (.namespaceRequired operation) else .ok ns
  | none => .error (.namespaceRequired operation)

/-- Reads a record as a release. -/
def readRelease (operation : Operation) (name : String) (record : Record) : Except Failure Release :=
  (Release.ofRecord record).mapError fun fault => .conversion operation name fault.message

/-- Writes a release as a record. -/
def writeRelease (operation : Operation) (name : String) (release : Release) : Except Failure Record :=
  release.toRecord.mapError fun fault => .conversion operation name fault.message

/-- Reads a record as a release of this type; one of another type is not found. -/
def readInScope (d : ResourceDefinition) (operation : Operation) (name : String) (record : Record) :
    Except Failure Release := do
  let release ← readRelease operation name record
  if d.inScope release then .ok release else .error (.notFound d.groupResource name)

/-- Shows a record as an application. -/
def project (d : ResourceDefinition) (operation : Operation) (name : String) (record : Record) :
    Except Failure Application :=
  (readRelease operation name record).map d.toApplication

/-- Gets the release behind an application. -/
def fetch (d : ResourceDefinition) (operation : Operation) (ns name : String) : Action Release := do
  let record ← Action.ask operation name (.get ns (d.names.toBacking name))
  Action.of (d.readInScope operation name record)

/-- Creates an application. -/
def create (d : ResourceDefinition) (ns : Option String) (app : Application) : Action Application := do
  let ns ← Action.of (requireNamespace .create ns)
  let app ← Action.of (app.addressed none ns)
  let record ← Action.of (writeRelease .create app.name (d.toRelease app none))
  let created ← Action.ask .create app.name (.create ns record)
  Action.of (d.project .create app.name created)

/-- Gets an application. -/
def get (d : ResourceDefinition) (ns : Option String) (name : String) : Action Application := do
  let ns ← Action.of (requireNamespace .get ns)
  return d.toApplication (← d.fetch .get ns name)

/-- Lists the applications of a namespace. -/
def list (d : ResourceDefinition) (ns : Option String) (options : ListOptions) : Action ApplicationList := do
  let ns ← Action.of (requireNamespace .list ns)
  let records ← Action.ask .list ns (.list ns options.labels options.fields)
  return .ofItems d.application.kind records.resourceVersion (records.items.filterMap d.shown?)

/-- The first half of an update: the release to be updated, or none if there is none and one may be created. -/
def fetchForUpdate (d : ResourceDefinition) (ns name : String) (mayCreate : Bool) : Action (Option Release) :=
  ExceptT.mk do
    match ← (d.fetch .update ns name).run with
    | .ok release => return .ok (some release)
    | .error (.backingNotFound name status) =>
      return if mayCreate then .ok none else .error (.backingNotFound name status)
    | .error failure => return .error failure

/-- The second half of an update: stores the updated application over the release found in the first half, or as a
new one.  The result tells whether it was created. -/
def storeUpdated (d : ResourceDefinition) (ns name : String) (stored : Option Release) (app : Application) :
    Action (Application × Bool) := do
  let app ← Action.of (app.addressed (some name) ns)
  let record ← Action.of (writeRelease .update name (d.toRelease app stored))
  match stored with
  | some _ => do
    let written ← Action.ask .update name (.replace ns (d.names.toBacking name) record)
    return (← Action.of (d.project .update name written), false)
  | none => do
    let written ← Action.ask .update name (.create ns record)
    return (← Action.of (d.project .update name written), true)

/-- Updates an application: `updater` is given the current one, or none if there is none and one may be created. -/
def update (d : ResourceDefinition) (ns : Option String) (name : String)
    (updater : Option Application → Except Failure Application) (mayCreate : Bool) :
    Action (Application × Bool) := do
  let ns ← Action.of (requireNamespace .update ns)
  let stored ← d.fetchForUpdate ns name mayCreate
  let app ← Action.of (updater (stored.map d.toApplication))
  d.storeUpdated ns name stored app

/-- Patches the release behind an application; paths of the patch are those of the release. -/
def patch (d : ResourceDefinition) (ns : Option String) (name : String) (p : Patch) : Action Application := do
  let ns ← Action.of (requireNamespace .patch ns)
  let _ ← d.fetch .patch ns name
  let patched ← Action.ask .patch name (.patch ns (d.names.toBacking name) p)
  Action.of (d.project .patch name patched)

/-- Deletes an application. -/
def delete (d : ResourceDefinition) (ns : Option String) (name : String) : Action Unit := do
  let ns ← Action.of (requireNamespace .delete ns)
  let _ ← d.fetch .delete ns name
  Action.ask .delete name (.delete ns (d.names.toBacking name))

/-- The label selector of a watch: the configured labels and those asked for. -/
def watchLabels (d : ResourceDefinition) (options : ListOptions) : Option Selector :=
  let labels := Selector.both (.ofLabels d.release.labels) (options.labels.getD "")
  if labels = "" then none else some labels

/-- The version that a watch starts from; any will do when none is given. -/
def watchVersion (options : ListOptions) : String :=
  let version := options.resourceVersion.getD ""
  if version = "" then "0" else version

/-- Opens a watch of the releases of a namespace. -/
def watch (d : ResourceDefinition) (ns : Option String) (options : ListOptions) : Action (List WatchItem) := do
  let ns ← Action.of (requireNamespace .watch ns)
  Action.ask .watch ns (.watch ns (d.watchLabels options) options.fields (watchVersion options))

end ResourceDefinition

end AppGateway
