import AppGateway.Json.Basic

/-!
# Reading typed data from JSON values

The pieces from which the readers of typed data are built.  Records come in two kinds.

* A *plain* record is read from an object, or from an array of its fields in order (`Json.fields?`); naming a
  field twice is an error, and so is an array with more items than fields.
* An *open* record is read from an object only, and a repeated field counts with its last value, though every
  value given for it has to be readable (`Members.read`).
-/

namespace AppGateway

namespace Json

/-- Reads null as an absent value. -/
def nullable {α : Type} (read : Json → Option α) : Json → Option (Option α)
  | .null => some none
  | j => (read j).map some

/-- Reads an array, item by item. -/
def listOf {α : Type} (read : Json → Option α) (j : Json) : Option (List α) :=
  j.array?.bind fun items => items.mapM read

/-- Keeps a value as it is. -/
def any (j : Json) : Option Json := some j

/-- The fields of a plain record, from an object or from an array of fields in order. -/
def fields? (names : List String) : Json → Option Members
  | .object ms => if names.all fun n => (ms.filter (·.1 == n)).length ≤ 1 then some ms else none
  | .array items => if items.length ≤ names.length then some (names.zip items) else none
  | _ => none

/-- The fields of a record that is read from objects only, each named at most once. -/
def strictMembers? (names : List String) : Json → Option Members
  | .object ms => fields? names (.object ms)
  | _ => none

end Json

namespace Members

/-- Reads a member; a missing one has the default, and of a repeated one all values have to be readable and the
last one counts. -/
def read {α : Type} (ms : Members) (key : String) (read : Json → Option α) (default : α) : Option α :=
  ((ms.filter (·.1 == key)).mapM fun m => read m.2).map fun values => values.getLast?.getD default

/-- Reads a member that has to be there. -/
def required {α : Type} (ms : Members) (key : String) (read : Json → Option α) : Option α :=
  (ms.read key (fun j => (read j).map some) none).bind id

/-- Reads a member that may be missing or null. -/
def nullable {α : Type} (ms : Members) (key : String) (read : Json → Option α) : Option (Option α) :=
  ms.read key (Json.nullable read) none

/-- Reads a text that is empty when missing or null. -/
def textOrEmpty (ms : Members) (key : String) : Option String :=
  (ms.nullable key Json.string?).map (·.getD "")

end Members

end AppGateway
