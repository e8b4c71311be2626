import AppGateway.Backing.Exchange
import AppGateway.Json.Merge
import AppGateway.Resource.Release

/-!
# A backing store in memory

`MemoryStore` keeps records in the order in which they were created, under the namespace and name that they had then.
Every write gives the record a new resource version, a replacement that names another version than the stored one is
refused, and so are the creation of a record that exists and any access to one that does not.
-/

namespace AppGateway

/-- A record as it is stored. -/
structure StoredRecord where
  ns : String
  name : String
  value : Json
deriving Repr, Inhabited, BEq

/-- A backing store in memory. -/
structure MemoryStore where
  records : List StoredRecord := []
  revision : Nat := 100
  listRevision : Option String := some "42"
  events : List Json := []
deriving Repr, Inhabited, BEq

namespace MemoryStore

/-- A member of the metadata of an object; empty when it is missing or no text. -/
def metadataText (j : Json) (key : String) : String :=
  (((j.member? "metadata").bind (·.member? key)).bind Json.string?).getD ""

/-- An object with a resource version, made an object with metadata if it was none. -/
def withVersion (version : String) (j : Json) : Json :=
  let members := j.members?.getD []
  let metadata := ((Members.get? members "metadata").bind Json.members?).getD []
  .object (Members.set members "metadata"
    (.object (Members.set metadata "resourceVersion" (.string version))))

/-- The store that holds these objects. -/
def recordOf (j : Json) : StoredRecord where
  ns := metadataText j "namespace"
  name := metadataText j "name"
  value := j

private def refusal (name reason problem : String) (code : Nat) : BackingError :=
  .api {
    message := releasePlural ++ "." ++ releaseGroup ++ " \"" ++ name ++ "\" " ++ problem
    reason
    code }

/-- The answer that a record is missing. -/
def missing (name : String) : BackingError := refusal name "NotFound" "not found" 404

/-- The answer that a record exists already. -/
def present (name : String) : BackingError := refusal name "AlreadyExists" "already exists" 409

/-- The answer that a record has changed. -/
def changed (name : String) : BackingError := refusal name "Conflict" "was modified" 409

/-- Whether a record is stored under a namespace and a name. -/
def StoredRecord.isAt (r : StoredRecord) (ns name : String) : Bool :=
  r.ns == ns && r.name == name

/-- The value stored under a namespace and a name. -/
def find? (s : MemoryStore) (ns name : String) : Option Json :=
  (s.records.find? fun r => StoredRecord.isAt r ns name).map (·.value)

/-- Replaces the first value that is stored under a namespace and a name. -/
def put (ns name : String) (value : Json) : List StoredRecord → List StoredRecord
  | [] => []
  | r :: rest => if StoredRecord.isAt r ns name then { r with value } :: rest else r :: put ns name value rest

/-- Removes the first value that is stored under a namespace and a name. -/
def remove (ns name : String) : List StoredRecord → List StoredRecord
  | [] => []
  | r :: rest => if StoredRecord.isAt r ns name then rest else r :: remove ns name rest

/-- The resource version of the next write. -/
def nextVersion (s : MemoryStore) : String := toString (s.revision + 1)

/-- Writes a value over the one stored. -/
def overwrite (s : MemoryStore) (ns name : String) (value : Json) : Except BackingError Json × MemoryStore :=
  let value := withVersion s.nextVersion value
  (.ok value, { s with records := put ns name value s.records, revision := s.revision + 1 })

/-- The values stored in a namespace; selectors are not applied. -/
def list (s : MemoryStore) (ns : String) : List Json :=
  (s.records.filter (·.ns == ns)).map (·.value)

/-- Gets a value. -/
def get (s : MemoryStore) (ns name : String) : Except BackingError Json :=
  match s.find? ns name with
  | some value => .ok value
  | none => .error (missing name)

/-- Creates a value under the name that it carries. -/
def create (s : MemoryStore) (ns : String) (value : Json) : Except BackingError Json × MemoryStore :=
  let name := metadataText value "name"
  match s.find? ns name with
  | some _ => (.error (present name), s)
  | none =>
    let value := withVersion s.nextVersion value
    (.ok value, { s with records := s.records ++ [⟨ns, name, value⟩], revision := s.revision + 1 })

/-- Replaces a value, unless the new one carries another version than the stored one. -/
def replace (s : MemoryStore) (ns name : String) (value : Json) : Except BackingError Json × MemoryStore :=
  match s.find? ns name with
  | none => (.error (missing name), s)
  | some stored =>
    let version := metadataText value "resourceVersion"
    if version ≠ "" ∧ version ≠ metadataText stored "resourceVersion" then (.error (changed name), s)
    else s.overwrite ns name value

/-- Merges a document into a value, or changes nothing but its version when there is no document to merge. -/
def patch (s : MemoryStore) (ns name : String) (document : Option Json) :
    Except BackingError Json × MemoryStore :=
  match s.find? ns name with
  | none => (.error (missing name), s)
  | some stored =>
    match document with
    | none => s.overwrite ns name stored
    | some document => s.overwrite ns name (stored.merge document)

/-- Deletes a value. -/
def delete (s : MemoryStore) (ns name : String) : Except BackingError Unit × MemoryStore :=
  match s.find? ns name with
  | none => (.error (missing name), s)
  | some _ => (.ok (), { s with records := remove ns name s.records })

/-- Reads an answered value as a record. -/
def asRecord (answer : Except BackingError Json) : Except BackingError Record := do
  match Record.ofJson? (← answer) with
  | some record => .ok record
  | none => .error .unreadable

/-- Reads values as a list of records, which fails if one of them is none. -/
def asList (resourceVersion : Option String) (values : List Json) : Except BackingError RecordList :=
  match values.mapM Record.ofJson? with
  | some items => .ok { resourceVersion, items }
  | none => .error .unreadable

/-- Reads a value as an item of a watch. -/
def asItem (value : Json) : WatchItem :=
  match RecordEvent.ofJson? value with
  | some event => .ok event
  | none => .error .unreadable

/-- Answers a call.  Patches of operations change nothing but the version. -/
def answer (c : BackingCall) (s : MemoryStore) : c.Answer × MemoryStore :=
  match c with
  | .list ns _ _ => (asList s.listRevision (s.list ns), s)
  | .get ns name => (asRecord (s.get ns name), s)
  | .create ns record => (s.create ns record.toJson).map asRecord id
  | .replace ns name record => (s.replace ns name record.toJson).map asRecord id
  | .patch ns name (.json _) => (s.patch ns name none).map asRecord id
  | .patch ns name p => (s.patch ns name (some p.document)).map asRecord id
  | .delete ns name => s.delete ns name
  | .watch .. => (.ok (s.events.map asItem), s)

end MemoryStore

end AppGateway
