import AppGateway.Meta.StringMap

/-!
# Names and labels

A release is named by the prefix of its type followed by the name of its application.  Nothing is stored to relate the
two: `NameScheme.toBacking` and `NameScheme.toSynthetic` compute one from the other, and
`toSynthetic_toBacking` says that the way there and back loses nothing.
-/

namespace AppGateway

/-- The naming of the releases of one type. -/
structure NameScheme where
  namePrefix : String
deriving DecidableEq, Repr, Inhabited

namespace NameScheme

/-- Drops the first characters of a text if they are the given ones. -/
def dropStart? : List Char → List Char → Option (List Char)
  | [], cs => some cs
  | _ :: _, [] => none
  | p :: ps, c :: cs => if p = c then dropStart? ps cs else none

/-- The name of the release behind an application. -/
def toBacking (s : NameScheme) (name : String) : String :=
  s.namePrefix ++ name

/-- The name of the application in front of a release; a name without the prefix is left as it is. -/
def toSynthetic (s : NameScheme) (name : String) : String :=
  match dropStart? s.namePrefix.toList name.toList with
  | some rest => String.ofList rest
  | none => name

private theorem dropStart?_append (p cs : List Char) : dropStart? p (p ++ cs) = some cs := by
  induction p with
  | nil => rfl
  | cons c p ih => simp [dropStart?, ih]

theorem toSynthetic_toBacking (s : NameScheme) (name : String) : s.toSynthetic (s.toBacking name) = name := by
  simp [toSynthetic, toBacking, dropStart?_append]

end NameScheme

/-- Selectors of records by their labels and fields, in their text form. -/
abbrev Selector := String

namespace Selector

/-- The selector of records that have all these labels. -/
def ofLabels (labels : StringMap) : Selector :=
  String.intercalate "," (labels.entries.map fun e => e.1 ++ "=" ++ e.2)

/-- The selector of records that both selectors select; an empty one selects all. -/
def both (a b : Selector) : Selector :=
  if a.isEmpty then b else if b.isEmpty then a else a ++ "," ++ b

end Selector

end AppGateway
