import AppGateway.Json.Shape
import AppGateway.Meta.StringMap
import AppGateway.Time.Timestamp

/-!
# Metadata of objects and lists

The standard metadata that every object and every list of a cluster carries.  All of it is optional, a null member
counts as a missing one, and members not named here are dropped.  Times are written in whole seconds.
-/

namespace AppGateway

/-- Reads a timestamp. -/
def Timestamp.ofJson? (j : Json) : Option Timestamp :=
  j.string?.bind Timestamp.parse

/-- A reference to an object that owns another one. -/
structure OwnerReference where
  apiVersion : String := ""
  blockOwnerDeletion : Option Bool := none
  controller : Option Bool := none
  kind : String := ""
  name : String := ""
  uid : String := ""
deriving DecidableEq, Repr, Inhabited

namespace OwnerReference

/-- Reads an owner reference. -/
def ofJson? (j : Json) : Option OwnerReference := do
  let ms ← j.members?
  return {
    apiVersion := ← Members.textOrEmpty ms "apiVersion"
    blockOwnerDeletion := ← Members.nullable ms "blockOwnerDeletion" Json.bool?
    controller := ← Members.nullable ms "controller" Json.bool?
    kind := ← Members.textOrEmpty ms "kind"
    name := ← Members.textOrEmpty ms "name"
    uid := ← Members.textOrEmpty ms "uid" }

/-- The written reference. -/
def toJson (r : OwnerReference) : Json :=
  .object (
    [("apiVersion", .string r.apiVersion)]
    ++ Members.optional "blockOwnerDeletion" (r.blockOwnerDeletion.map .bool)
    ++ Members.optional "controller" (r.controller.map .bool)
    ++ [("kind", .string r.kind), ("name", .string r.name), ("uid", .string r.uid)])

/-- What is read of a reference. -/
def shape : Shape :=
  .ofFields ["apiVersion", "blockOwnerDeletion", "controller", "kind", "name", "uid"] []

end OwnerReference

/-- A record of who set which fields of an object. -/
structure ManagedFields where
  apiVersion : Option String := none
  fieldsType : Option String := none
  fieldsV1 : Option Json := none
  manager : Option String := none
  operation : Option String := none
  subresource : Option String := none
  time : Option Timestamp := none
deriving Repr, Inhabited, BEq

namespace ManagedFields

/-- Reads a record of managed fields. -/
def ofJson? (j : Json) : Option ManagedFields := do
  let ms ← j.members?
  return {
    apiVersion := ← Members.nullable ms "apiVersion" Json.string?
    fieldsType := ← Members.nullable ms "fieldsType" Json.string?
    fieldsV1 := ← Members.nullable ms "fieldsV1" Json.any
    manager := ← Members.nullable ms "manager" Json.string?
    operation := ← Members.nullable ms "operation" Json.string?
    subresource := ← Members.nullable ms "subresource" Json.string?
    time := ← Members.nullable ms "time" Timestamp.ofJson? }

/-- The written record. -/
def toJson (f : ManagedFields) : Json :=
  .object (
    Members.optional "apiVersion" (f.apiVersion.map .string)
    ++ Members.optional "fieldsType" (f.fieldsType.map .string)
    ++ Members.optional "fieldsV1" f.fieldsV1
    ++ Members.optional "manager" (f.manager.map .string)
    ++ Members.optional "operation" (f.operation.map .string)
    ++ Members.optional "subresource" (f.subresource.map .string)
    ++ Members.optional "time" (f.time.map fun t => .string t.toSecondsText))

/-- What is read of such a record. -/
def shape : Shape :=
  .ofFields ["apiVersion", "fieldsType", "fieldsV1", "manager", "operation", "subresource", "time"] []

end ManagedFields

/-- The metadata of an object. -/
structure ObjectMeta where
  annotations : Option StringMap := none
  creationTimestamp : Option Timestamp := none
  deletionGracePeriodSeconds : Option Int := none
  deletionTimestamp : Option Timestamp := none
  finalizers : Option (List String) := none
  generateName : Option String := none
  generation : Option Int := none
  labels : Option StringMap := none
  managedFields : Option (List ManagedFields) := none
  name : Option String := none
  ns : Option String := none
  ownerReferences : Option (List OwnerReference) := none
  resourceVersion : Option String := none
  selfLink : Option String := none
  uid : Option String := none
deriving Repr, Inhabited, BEq

namespace ObjectMeta

/-- Reads the metadata of an object. -/
def ofJson? (j : Json) : Option ObjectMeta := do
  let ms ← j.members?
  return {
    annotations := ← Members.nullable ms "annotations" StringMap.ofJson?
    creationTimestamp := ← Members.nullable ms "creationTimestamp" Timestamp.ofJson?
    deletionGracePeriodSeconds := ← Members.nullable ms "deletionGracePeriodSeconds" Json.int64?
    deletionTimestamp := ← Members.nullable ms "deletionTimestamp" Timestamp.ofJson?
    finalizers := ← Members.nullable ms "finalizers" (Json.listOf Json.string?)
    generateName := ← Members.nullable ms "generateName" Json.string?
    generation := ← Members.nullable ms "generation" Json.int64?
    labels := ← Members.nullable ms "labels" StringMap.ofJson?
    managedFields := ← Members.nullable ms "managedFields" (Json.listOf ManagedFields.ofJson?)
    name := ← Members.nullable ms "name" Json.string?
    ns := ← Members.nullable ms "namespace" Json.string?
    ownerReferences := ← Members.nullable ms "ownerReferences" (Json.listOf OwnerReference.ofJson?)
    resourceVersion := ← Members.nullable ms "resourceVersion" Json.string?
    selfLink := ← Members.nullable ms "selfLink" Json.string?
    uid := ← Members.nullable ms "uid" Json.string? }

/-- The written metadata. -/
def toJson (m : ObjectMeta) : Json :=
  .object (
    Members.optional "annotations" (m.annotations.map StringMap.toJson)
    ++ Members.optional "creationTimestamp" (m.creationTimestamp.map fun t => .string t.toSecondsText)
    ++ Members.optional "deletionGracePeriodSeconds" (m.deletionGracePeriodSeconds.map .int)
    ++ Members.optional "deletionTimestamp" (m.deletionTimestamp.map fun t => .string t.toSecondsText)
    ++ Members.optional "finalizers" (m.finalizers.map .strings)
    ++ Members.optional "generateName" (m.generateName.map .string)
    ++ Members.optional "generation" (m.generation.map .int)
    ++ Members.optional "labels" (m.labels.map StringMap.toJson)
    ++ Members.optional "managedFields" (m.managedFields.map fun fs => .array (fs.map ManagedFields.toJson))
    ++ Members.optional "name" (m.name.map .string)
    ++ Members.optional "namespace" (m.ns.map .string)
    ++ Members.optional "ownerReferences" (m.ownerReferences.map fun rs => .array (rs.map OwnerReference.toJson))
    ++ Members.optional "resourceVersion" (m.resourceVersion.map .string)
    ++ Members.optional "selfLink" (m.selfLink.map .string)
    ++ Members.optional "uid" (m.uid.map .string))

/-- What is read of the metadata of an object. -/
def shape : Shape :=
  .ofFields
    ["annotations", "creationTimestamp", "deletionGracePeriodSeconds", "deletionTimestamp", "finalizers",
      "generateName", "generation", "labels", "managedFields", "name", "namespace", "ownerReferences",
      "resourceVersion", "selfLink", "uid"]
    [("managedFields", .list ManagedFields.shape), ("ownerReferences", .list OwnerReference.shape)]

end ObjectMeta

/-- The metadata of a list. -/
structure ListMeta where
  continuation : Option String := none
  remainingItemCount : Option Int := none
  resourceVersion : Option String := none
  selfLink : Option String := none
deriving DecidableEq, Repr, Inhabited

namespace ListMeta

/-- Reads the metadata of a list. -/
def ofJson? (j : Json) : Option ListMeta := do
  let ms ← j.members?
  return {
    continuation := ← Members.nullable ms "continue" Json.string?
    remainingItemCount := ← Members.nullable ms "remainingItemCount" Json.int64?
    resourceVersion := ← Members.nullable ms "resourceVersion" Json.string?
    selfLink := ← Members.nullable ms "selfLink" Json.string? }

/-- The written metadata. -/
def toJson (m : ListMeta) : Json :=
  .object (
    Members.optional "continue" (m.continuation.map .string)
    ++ Members.optional "remainingItemCount" (m.remainingItemCount.map .int)
    ++ Members.optional "resourceVersion" (m.resourceVersion.map .string)
    ++ Members.optional "selfLink" (m.selfLink.map .string))

/-- What is read of the metadata of a list. -/
def shape : Shape :=
  .ofFields ["continue", "remainingItemCount", "resourceVersion", "selfLink"] []

end ListMeta

end AppGateway
