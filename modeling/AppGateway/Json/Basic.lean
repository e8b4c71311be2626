import AppGateway.Number.Numeral

/-!
# JSON values

An object is a list of members.  Members are set in key order, so an object built by `Members.ofList` has its
keys sorted and each of them once, the last value given for a key being the one that counts.
-/

namespace AppGateway

/-- A JSON value. -/
inductive Json where
  | null
  | bool (value : Bool)
  | number (value : Number)
  | string (value : String)
  | array (items : List Json)
  | object (members : List (String × Json))
deriving Inhabited, Repr, BEq

/-- The members of an object. -/
abbrev Members := List (String × Json)

namespace Members

/-- The value of a member. -/
def get? (ms : Members) (key : String) : Option Json :=
  ms.lookup key

/-- Sets a member: in place if the key is there, else before the first greater key. -/
def set (ms : Members) (key : String) (value : Json) : Members :=
  match ms with
  | [] => [(key, value)]
  | (k, v) :: rest =>
    if key = k then (key, value) :: rest
    else if key < k then (key, value) :: (k, v) :: rest
    else (k, v) :: set rest key value

/-- Removes a member. -/
def erase (ms : Members) (key : String) : Members :=
  ms.filter (·.1 != key)

/-- The object with the given members, of which later ones replace earlier ones. -/
def ofList (ms : List (String × Json)) : Members :=
  ms.foldl (fun acc m => acc.set m.1 m.2) []

/-- The members whose key is not among `known`. -/
def without (ms : Members) (known : List String) : Members :=
  ms.filter fun m => !known.contains m.1

/-- A member that is left out when it has no value. -/
def optional (key : String) (value : Option Json) : Members :=
  match value with
  | some v => [(key, v)]
  | none => []

end Members

namespace Json

/-- An integer. -/
def int (n : Int) : Json := .number (.ofInt n)

/-- A list of strings. -/
def strings (items : List String) : Json := .array (items.map .string)

/-- The member of an object; none for a missing member and for a value that is no object. -/
def member? (j : Json) (key : String) : Option Json :=
  match j with
  | .object ms => Members.get? ms key
  | _ => none

/-- The text of a string. -/
def string? : Json → Option String
  | .string s => some s
  | _ => none

/-- The value of a boolean. -/
def bool? : Json → Option Bool
  | .bool b => some b
  | _ => none

/-- The value of a signed 64-bit integer. -/
def int64? : Json → Option Int
  | .number n => n.int64?
  | _ => none

/-- The value of an unsigned 16-bit integer. -/
def word16? : Json → Option Nat
  | .number n => n.word16?
  | _ => none

/-- The items of an array. -/
def array? : Json → Option (List Json)
  | .array items => some items
  | _ => none

/-- The members of an object. -/
def members? : Json → Option Members
  | .object ms => some ms
  | _ => none

/-- Whether the value is an array. -/
def isArray (j : Json) : Bool := j.array?.isSome

/-- Whether the value is an object. -/
def isObject (j : Json) : Bool := j.members?.isSome

end Json

end AppGateway
