import AppGateway.Json.Source

/-!
# What is read of a JSON text

A `Shape` says which parts of a document are read.  `Source.select` keeps those and skips the rest: a member
that is not part of a record is skipped however deep it nests and whatever its numerals and escapes say, while
a part that is read must nest no deeper than the room left and have readable numbers and strings.

Members of a record are kept in the order of the text, repeated ones included, for the reader of that record to
judge; in a part that is kept whole the last of repeated members counts.
-/

namespace AppGateway

/-- Which parts of a document are read. -/
inductive Shape where
  /-- All of it. -/
  | whole
  /-- An array, and of each item this shape. -/
  | list (item : Shape)
  /-- Of an object these members, and the others whole if they are kept; of an array, the items in this order. -/
  | record (fields : List (String × Shape)) (keepsOthers : Bool)
deriving Inhabited

namespace Shape

/-- The shape of a record with these members, of which the named ones are read in a shape of their own and the
others are skipped. -/
def ofFields (plain : List String) (shaped : List (String × Shape)) : Shape :=
  .record (plain.map (fun name => (name, (shaped.lookup name).getD .whole))) false

/-- The shape of a member of an object; none for a member that is skipped. -/
def field? (shape : Shape) (key : String) : Option Shape :=
  match shape with
  | .record fields keepsOthers => (fields.lookup key).or (if keepsOthers then some .whole else none)
  | _ => some .whole

/-- The shapes of the first items of an array, and that of the others. -/
def items : Shape → List Shape × Shape
  | .whole => ([], .whole)
  | .list item => ([], item)
  | .record fields _ => (fields.map (·.2), .whole)

/-- Whether members are kept as they are in the text. -/
def keepsRepeats : Shape → Bool
  | .record .. => true
  | _ => false

end Shape

namespace Source

mutual

/-- The value of the parts of a document that are read; `room` is the number of levels it may nest. -/
def select (shape : Shape) (room : Nat) : Source → Option Json
  | .null => some .null
  | .bool b => some (.bool b)
  | .numeral x => x.value?.map .number
  | .string s => s.map .string
  | .array items =>
    match room with
    | 0 => none
    | room + 1 => (selectItems shape.items.1 shape.items.2 room items).map .array
  | .object members =>
    match room with
    | 0 => none
    | room + 1 =>
      (selectMembers shape room members).map fun ms =>
        .object (if shape.keepsRepeats then ms else Members.ofList ms)

/-- The values of the items of an array. -/
def selectItems (shapes : List Shape) (others : Shape) (room : Nat) : List Source → Option (List Json)
  | [] => some []
  | item :: rest => do
    let value ← select (shapes.headD others) room item
    let values ← selectItems shapes.tail others room rest
    return value :: values

/-- The values of the members that are read. -/
def selectMembers (shape : Shape) (room : Nat) : List (Option String × Source) → Option Members
  | [] => some []
  | (key, source) :: rest => do
    let key ← key
    match shape.field? key with
    | none => selectMembers shape room rest
    | some field =>
      let value ← select field room source
      let values ← selectMembers shape room rest
      return (key, value) :: values

end

end Source

namespace Json

/-- The number of levels that a text may nest. -/
def nestingLimit : Nat := 127

/-- Reads the parts of a text that a shape names. -/
def parseAs (shape : Shape) (text : String) : Option Json :=
  (Source.parse text.toList).bind (Source.select shape nestingLimit)

/-- Reads a whole text. -/
def parse (text : String) : Option Json :=
  parseAs .whole text

end Json

end AppGateway
