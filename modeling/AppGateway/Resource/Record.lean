import AppGateway.Json.Shape
import AppGateway.Meta.ObjectMeta

/-!
# Records of the backing store

A record is an object of any kind: its type, its metadata, and whatever other members it has.  The type is taken as
a pair; when one half is missing or no text, the pair is given up, together with every half read up to then.
-/

namespace AppGateway

/-- The type of an object. -/
structure TypeMeta where
  apiVersion : String
  kind : String
deriving DecidableEq, Repr, Inhabited

namespace TypeMeta

/-- Takes the type out of the members of an object, given the halves that were already taken.  A half that is no
text, or is there twice, is dropped and ends the search; members after it stay as they are. -/
def take (apiVersion kind : Option String) : Members → Option TypeMeta × Members
  | [] =>
    match apiVersion, kind with
    | some apiVersion, some kind => (some ⟨apiVersion, kind⟩, [])
    | _, _ => (none, [])
  | (key, value) :: rest =>
    if key = "apiVersion" then
      match apiVersion, value with
      | none, .string s => take (some s) kind rest
      | _, _ => (none, rest)
    else if key = "kind" then
      match kind, value with
      | none, .string s => take apiVersion (some s) rest
      | _, _ => (none, rest)
    else
      let (type, others) := take apiVersion kind rest
      (type, (key, value) :: others)

end TypeMeta

/-- A record of the backing store. -/
structure Record where
  type : Option TypeMeta := none
  metadata : ObjectMeta := {}
  data : Members := []
deriving Repr, Inhabited, BEq

namespace Record

/-- The name of a record, empty when it has none. -/
def name (r : Record) : String := r.metadata.name.getD ""

/-- Reads a record. -/
def ofJson? (j : Json) : Option Record := do
  let ms ← Json.strictMembers? ["metadata"] j
  let metadata ← Members.read ms "metadata" ObjectMeta.ofJson? {}
  let (type, data) := TypeMeta.take none none (Members.without ms ["metadata"])
  return { type, metadata, data := Members.ofList data }

/-- The written record. -/
def toJson (r : Record) : Json :=
  let type : Members :=
    match r.type with
    | some t => [("apiVersion", .string t.apiVersion), ("kind", .string t.kind)]
    | none => []
  .object (type ++ [("metadata", r.metadata.toJson)] ++ r.data)

/-- What is read of a record. -/
def shape : Shape := .record [("metadata", ObjectMeta.shape)] true

end Record

end AppGateway
