import AppGateway.Json.Source
import AppGateway.Yaml.Node

/-!
# The values of documents

A document stands for a JSON value.  A plain scalar is null, a boolean or a number if it reads as one, and otherwise
a text; all other scalars, and the keys of mappings, are texts.  Integers may be written to base 16, 8 or 2, and digits
after a leading zero make a text.
-/

namespace AppGateway

namespace Yaml

/-- Drops a leading plus sign. -/
def dropPlus : List Char → List Char
  | '+' :: rest => rest
  | cs => cs

/-- Drops a leading sign. -/
def dropSign : List Char → List Char
  | '+' :: rest => rest
  | '-' :: rest => rest
  | cs => cs

/-- Whether digits follow a leading zero. -/
def isZeroPadded (cs : List Char) : Bool :=
  match dropSign cs with
  | '0' :: c :: rest => (c :: rest).all Source.isDigit
  | _ => false

/-- The value of digits to a base. -/
def digits? (base : Nat) (cs : List Char) : Option Nat := do
  if cs.isEmpty then none
  let values ← cs.mapM Source.hexDigit?
  if values.all (· < base) then some (values.foldl (fun n d => n * base + d) 0) else none

/-- The value of a row of digits, its base told by a zero and a letter before them. -/
def magnitude? : List Char → Option Nat
  | '0' :: 'x' :: rest => digits? 16 rest
  | '0' :: 'o' :: rest => digits? 8 rest
  | '0' :: 'b' :: rest => digits? 2 rest
  | cs => digits? 10 cs

/-- The integer that a plain scalar writes, of any size. -/
def integer? (cs : List Char) : Option Int :=
  if isZeroPadded cs then none
  else
    match cs with
    | '-' :: rest => (magnitude? rest).map fun n => -(n : Int)
    | cs => (magnitude? (dropPlus cs)).map fun n => (n : Int)

/-- The digits of a decimal number: at least one, before or after the point. -/
def decimal? (negative : Bool) (cs : List Char) : Option Numeral := do
  let whole := cs.takeWhile Source.isDigit
  let rest := cs.dropWhile Source.isDigit
  let (fraction, rest) := match rest with
    | '.' :: rest => (rest.takeWhile Source.isDigit, rest.dropWhile Source.isDigit)
    | rest => ([], rest)
  if whole.isEmpty && fraction.isEmpty then none
  let (power, rest) ← Source.power? rest
  if rest.isEmpty then some ⟨negative, whole, fraction, power⟩ else none

/-- The real number that a plain scalar writes; one that is too large writes none. -/
def real? (cs : List Char) : Option Binary64 :=
  if isZeroPadded cs then none
  else
    match cs with
    | '-' :: rest => (decimal? true rest).bind Numeral.nearest?
    | cs => (decimal? false (dropPlus cs)).bind Numeral.nearest?

/-- Infinities and what is not a number, which have no JSON number. -/
def notFinite : List String :=
  [".inf", ".Inf", ".INF", "+.inf", "+.Inf", "+.INF", "-.inf", "-.Inf", "-.INF", ".nan", ".NaN", ".NAN"]

/-- The value of a plain scalar.  An integer between 64 and 128 bits has none, and a larger one is a real
number. -/
def plainValue? (s : String) : Option Json :=
  if ["", "~", "null", "Null", "NULL"].contains s || notFinite.contains s then some .null
  else if ["true", "True", "TRUE"].contains s then some (.bool true)
  else if ["false", "False", "FALSE"].contains s then some (.bool false)
  else
    match integer? s.toList with
    | some n =>
      if Word.holds64 n then some (.int n)
      else if Word.holdsSigned 128 n || Word.holdsUnsigned 128 n then none
      else some (real s)
    | none => some (real s)
where
  /-- The real number that a plain scalar writes, or its text. -/
  real (s : String) : Json :=
    match real? s.toList with
    | some x => .number (.real x)
    | none => .string s

namespace Node

mutual

/-- The value of a node; `room` is the number of levels it may nest. -/
def value? (room : Nat) : Node → Option Json
  | .scalar s => if s.isPlain then plainValue? s.text else some (.string s.text)
  | .sequence items =>
    match room with
    | 0 => none
    | room + 1 => (values? room items).map .array
  | .mapping members =>
    match room with
    | 0 => none
    | room + 1 => (memberValues? room members).map fun ms => .object (Members.ofList ms)

/-- The values of the items of a sequence. -/
def values? (room : Nat) : List Node → Option (List Json)
  | [] => some []
  | item :: rest => do
    let value ← value? room item
    return value :: (← values? room rest)

/-- The members of a mapping, their keys as texts. -/
def memberValues? (room : Nat) : List (Node × Node) → Option Members
  | [] => some []
  | (key, node) :: rest => do
    let key ← key.text?
    let value ← value? room node
    return (key, value) :: (← memberValues? room rest)

end

end Node

/-- The number of levels that a document may nest. -/
def nestingLimit : Nat := 128

/-- The value of a text of one document. -/
def value? (text : String) : Option Json :=
  (Node.parse text).bind (Node.value? nestingLimit)

end Yaml

end AppGateway
