import AppGateway.Backing.Call
import AppGateway.Mapping

/-!
# Events of applications

What a watch of applications reports.  `ResourceDefinition.eventOf?` turns an item of a watch of releases into an event
of applications; bookmarks, unreadable items and releases of other types give none.
-/

namespace AppGateway

/-- What a watch of applications reports. -/
inductive ApplicationEvent where
  | added (app : Application)
  | modified (app : Application)
  | deleted (app : Application)
  | error (response : ErrorResponse)
deriving Repr, Inhabited, BEq

namespace ApplicationEvent

/-- The kind of an event. -/
def kind : ApplicationEvent → String
  | .added _ => "ADDED"
  | .modified _ => "MODIFIED"
  | .deleted _ => "DELETED"
  | .error _ => "ERROR"

/-- The `Status` object of an error of the backing store. -/
def errorStatus (e : ErrorResponse) : Json :=
  .object [("apiVersion", .string "v1"), ("kind", .string "Status"), ("code", .int e.code),
    ("message", .string e.message), ("metadata", .object []), ("reason", .string e.reason),
    ("status", .string e.status)]

/-- The object that an event carries. -/
def object : ApplicationEvent → Json
  | .added app => app.toJson
  | .modified app => app.toJson
  | .deleted app => app.toJson
  | .error e => errorStatus e

/-- The written event. -/
def toJson (e : ApplicationEvent) : Json :=
  .object [("type", .string e.kind), ("object", e.object)]

end ApplicationEvent

namespace ResourceDefinition

/-- The event of applications in an item of a watch of releases. -/
def eventOf? (d : ResourceDefinition) : WatchItem → Option ApplicationEvent
  | .ok (.added record) => (d.shown? record).map .added
  | .ok (.modified record) => (d.shown? record).map .modified
  | .ok (.deleted record) => (d.shown? record).map .deleted
  | .ok .bookmark => none
  | .ok (.error response) => some (.error response)
  | .error _ => none

end ResourceDefinition

end AppGateway
