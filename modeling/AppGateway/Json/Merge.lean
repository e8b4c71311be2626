import AppGateway.Json.Basic

/-!
# Merge patches

`Json.merge` applies a merge patch as RFC 7386 has it: an object is merged member by member, null removes a member, and
anything else replaces what was there.
-/

namespace AppGateway

namespace Json

mutual

/-- Applies a merge patch to a value. -/
def merge (target : Json) : Json → Json
  | .object patch => .object (mergeMembers (target.members?.getD []) patch)
  | patch => patch

/-- Applies the members of a merge patch to the members of an object. -/
def mergeMembers (target : List (String × Json)) : List (String × Json) → List (String × Json)
  | [] => target
  | (key, .null) :: rest => mergeMembers (Members.erase target key) rest
  | (key, patch) :: rest =>
    mergeMembers (Members.set target key (merge ((Members.get? target key).getD .null) patch)) rest

end

end Json

end AppGateway
