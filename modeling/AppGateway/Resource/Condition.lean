import AppGateway.Json.Shape
import AppGateway.Meta.ObjectMeta

/-!
# Status conditions

A condition reports one aspect of the state of an object.  Its status is `True`, `False` or `Unknown`, and every
text but the first two reads as the last.
-/

namespace AppGateway

/-- The status of a condition. -/
inductive ConditionStatus where
  | isTrue
  | isFalse
  | unknown
deriving DecidableEq, Repr, Inhabited

namespace ConditionStatus

/-- Reads a status; any other text is `Unknown`. -/
def ofText (text : String) : ConditionStatus :=
  if text = "True" then .isTrue else if text = "False" then .isFalse else .unknown

/-- The written status. -/
def toText : ConditionStatus → String
  | .isTrue => "True"
  | .isFalse => "False"
  | .unknown => "Unknown"

end ConditionStatus

/-- A status condition. -/
structure Condition where
  type : String := ""
  status : ConditionStatus := .unknown
  reason : String := ""
  message : String := ""
  lastTransitionTime : Option Timestamp := none
deriving DecidableEq, Repr, Inhabited

namespace Condition

/-- The type of the condition that reports overall readiness. -/
def ready : String := "Ready"

/-- The type of the condition that reports that the chart was released. -/
def released : String := "Released"

/-- The fields of a condition, in order. -/
def fields : List String := ["type", "status", "reason", "message", "lastTransitionTime"]

/-- Reads a condition. -/
def ofJson? (j : Json) : Option Condition := do
  let ms ← Json.fields? fields j
  return {
    type := ← Members.read ms "type" Json.string? ""
    status := ← Members.read ms "status" (fun j => j.string?.map .ofText) .unknown
    reason := ← Members.read ms "reason" Json.string? ""
    message := ← Members.read ms "message" Json.string? ""
    lastTransitionTime := ← Members.nullable ms "lastTransitionTime" Timestamp.ofJson? }

/-- The written condition; its time keeps its fraction. -/
def toJson (c : Condition) : Json :=
  .object (
    [("type", .string c.type), ("status", .string c.status.toText), ("reason", .string c.reason),
      ("message", .string c.message)]
    ++ Members.optional "lastTransitionTime" (c.lastTransitionTime.map fun t => .string t.toText))

/-- What is read of a condition. -/
def shape : Shape := .ofFields fields []

end Condition

end AppGateway
