import AppGateway.Backing.Error
import AppGateway.Identity
import AppGateway.Json.Patch
import AppGateway.Resource.Record

/-!
# Calls to the backing store

The calls that the gateway makes to the store of releases, and the type of the answer to each.
-/

namespace AppGateway

/-- A patch document, with the rule by which it is applied. -/
inductive Patch where
  | json (operations : List PatchOperation)
  | merge (document : Json)
  | strategic (document : Json)
  | apply (document : Json)
deriving Repr, Inhabited, BEq

namespace Patch

/-- The written document. -/
def document : Patch → Json
  | .json operations => .array (operations.map PatchOperation.toJson)
  | .merge document => document
  | .strategic document => document
  | .apply document => document

end Patch

/-- A list of records and the version of the store that it shows. -/
structure RecordList where
  resourceVersion : Option String := none
  items : List Record := []
deriving Repr, Inhabited, BEq

/-- What a watch of records reports. -/
inductive RecordEvent where
  | added (record : Record)
  | modified (record : Record)
  | deleted (record : Record)
  | bookmark
  | error (response : ErrorResponse)
deriving Repr, Inhabited, BEq

namespace RecordEvent

/-- Whether an object is a bookmark: it tells its type and the version reached. -/
def isBookmark (j : Json) : Bool :=
  let version := ((j.member? "metadata").bind (·.member? "resourceVersion")).bind Json.string?
  ((j.member? "apiVersion").bind Json.string?).isSome && ((j.member? "kind").bind Json.string?).isSome
    && version.isSome

/-- Reads an event. -/
def ofJson? (j : Json) : Option RecordEvent := do
  let ms ← Json.fields? ["type", "object"] j
  let type ← Members.required ms "type" Json.string?
  let object ← Members.required ms "object" Json.any
  match type with
  | "ADDED" => (Record.ofJson? object).map .added
  | "MODIFIED" => (Record.ofJson? object).map .modified
  | "DELETED" => (Record.ofJson? object).map .deleted
  | "BOOKMARK" => if isBookmark object then some .bookmark else none
  | "ERROR" => (ErrorResponse.ofJson? object).map .error
  | _ => none

end RecordEvent

/-- An item of a watch: an event, or the failure to read one. -/
abbrev WatchItem := Except BackingError RecordEvent

/-- A call to the backing store. -/
inductive BackingCall where
  | list (ns : String) (labels fields : Option Selector)
  | get (ns name : String)
  | create (ns : String) (record : Record)
  | replace (ns name : String) (record : Record)
  | patch (ns name : String) (patch : Patch)
  | delete (ns name : String)
  | watch (ns : String) (labels fields : Option Selector) (version : String)
deriving Repr, Inhabited, BEq

namespace BackingCall

/-- What a call gives when it succeeds. -/
abbrev Result : BackingCall → Type
  | .list .. => RecordList
  | .get .. => Record
  | .create .. => Record
  | .replace .. => Record
  | .patch .. => Record
  | .delete .. => Unit
  | .watch .. => List WatchItem

/-- The answer to a call. -/
abbrev Answer (c : BackingCall) : Type := Except BackingError c.Result

end BackingCall

end AppGateway
