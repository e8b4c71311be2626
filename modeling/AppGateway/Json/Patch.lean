import AppGateway.Json.Read
import AppGateway.Json.Shape

/-!
# Patch documents of operations

The operations of a JSON patch (RFC 6902) are read and written here, not applied.  Paths have to be JSON pointers
(RFC 6901).
-/

namespace AppGateway

/-- An operation of a JSON patch. -/
inductive PatchOperation where
  | add (path : String) (value : Json)
  | remove (path : String)
  | replace (path : String) (value : Json)
  | move (source path : String)
  | copy (source path : String)
  | test (path : String) (value : Json)
deriving Repr, Inhabited, BEq

namespace PatchOperation

/-- Whether every tilde in a path stands before 0 or 1. -/
def escapesValid : List Char → Bool
  | [] => true
  | '~' :: c :: rest => (c == '0' || c == '1') && escapesValid rest
  | ['~'] => false
  | _ :: rest => escapesValid rest

/-- Reads a JSON pointer: empty, or starting with a slash. -/
def pointer? (j : Json) : Option String :=
  j.string?.bind fun s =>
    match s.toList with
    | [] => some s
    | c :: rest => if c = '/' ∧ escapesValid (c :: rest) then some s else none

/-- The kind of an operation and what else it is given, from an object with the kind as a member or an array with the
kind as its first item. -/
def kind? : Json → Option (String × Json)
  | .object ms =>
    match ms.filter (·.1 == "op") with
    | [(_, .string kind)] => some (kind, .object (Members.erase ms "op"))
    | _ => none
  | .array (.string kind :: rest) => some (kind, .array rest)
  | _ => none

private def pathAndValue? (make : String → Json → PatchOperation) (j : Json) : Option PatchOperation := do
  let ms ← Json.fields? ["path", "value"] j
  return make (← Members.required ms "path" pointer?) (← Members.required ms "value" Json.any)

private def sourceAndPath? (make : String → String → PatchOperation) (j : Json) : Option PatchOperation := do
  let ms ← Json.fields? ["from", "path"] j
  return make (← Members.required ms "from" pointer?) (← Members.required ms "path" pointer?)

/-- Reads an operation. -/
def ofJson? (j : Json) : Option PatchOperation := do
  let (kind, rest) ← kind? j
  match kind with
  | "add" => pathAndValue? add rest
  | "remove" => do
    let ms ← Json.fields? ["path"] rest
    return remove (← Members.required ms "path" pointer?)
  | "replace" => pathAndValue? replace rest
  | "move" => sourceAndPath? move rest
  | "copy" => sourceAndPath? copy rest
  | "test" => pathAndValue? test rest
  | _ => none

/-- The written operation. -/
def toJson : PatchOperation → Json
  | .add path value => .object [("op", .string "add"), ("path", .string path), ("value", value)]
  | .remove path => .object [("op", .string "remove"), ("path", .string path)]
  | .replace path value => .object [("op", .string "replace"), ("path", .string path), ("value", value)]
  | .move source path => .object [("op", .string "move"), ("from", .string source), ("path", .string path)]
  | .copy source path => .object [("op", .string "copy"), ("from", .string source), ("path", .string path)]
  | .test path value => .object [("op", .string "test"), ("path", .string path), ("value", value)]

/-- What is read of a list of operations. -/
def listShape : Shape := .list (.record [] true)

end PatchOperation

end AppGateway
