import AppGateway.Yaml.Token

/-!
# Nodes

A document is a tree of scalars, sequences and mappings.  `Node.parse` reads a text of one document by recursive descent
over its tokens; an item, key or value that is left out is an empty scalar, and so is a document without content.

The readable part of the language has block and flow collections, plain, quoted and block scalars, comments and document
marks.  A text with a directive, a tag, an anchor or an alias is refused.
-/

namespace AppGateway

namespace Yaml

/-- A part of a document. -/
inductive Node where
  | scalar (s : Scalar)
  | sequence (items : List Node)
  | mapping (members : List (Node × Node))
deriving Repr, Inhabited

namespace Node

/-- The node that stands where there is nothing. -/
def empty : Node := .scalar .empty

/-- Whether tokens are at their end or go on with one of these. -/
def atAny (ends : List Token) : List Token → Bool
  | [] => true
  | t :: _ => ends.contains t

/-- Drops the comma that has to stand before every item but the first. -/
def afterComma? (first : Bool) (ts : List Token) : Option (List Token) :=
  if first then some ts
  else
    match ts with
    | .comma :: rest => some rest
    | _ => none

mutual

/-- Reads a node.  `inBlock` tells whether it may be a block collection, and `afterKey` whether it may be a block sequence
that is indented no deeper than the mapping around it.  `fuel` bounds the calls. -/
def node? (fuel : Nat) (inBlock afterKey : Bool) (ts : List Token) : Option (Node × List Token) :=
  match fuel with
  | 0 => none
  | fuel + 1 =>
    match ts with
    | .scalar s :: rest => some (.scalar s, rest)
    | .flowSequence :: rest => (flowItems? fuel true rest).map fun (items, rest) => (.sequence items, rest)
    | .flowMapping :: rest => (flowMembers? fuel true rest).map fun (members, rest) => (.mapping members, rest)
    | .blockSequence :: rest =>
      if inBlock then (blockItems? fuel rest).map fun (items, rest) => (.sequence items, rest) else none
    | .blockMapping :: rest =>
      if inBlock then (blockMembers? fuel rest).map fun (members, rest) => (.mapping members, rest) else none
    | .entry :: _ =>
      if afterKey then (looseItems? fuel ts).map fun (items, rest) => (.sequence items, rest) else none
    | _ => none

/-- Reads a node, or nothing before one of these tokens. -/
def nodeUnless? (fuel : Nat) (ends : List Token) (inBlock afterKey : Bool) (ts : List Token) :
    Option (Node × List Token) :=
  match fuel with
  | 0 => none
  | fuel + 1 => if atAny ends ts then some (empty, ts) else node? fuel inBlock afterKey ts

/-- Reads the entries of a block sequence. -/
def blockItems? (fuel : Nat) (ts : List Token) : Option (List Node × List Token) :=
  match fuel, ts with
  | fuel + 1, .entry :: rest => do
    let (item, rest) ← nodeUnless? fuel [.entry, .blockEnd] true false rest
    let (items, rest) ← blockItems? fuel rest
    return (item :: items, rest)
  | _ + 1, .blockEnd :: rest => some ([], rest)
  | _, _ => none

/-- Reads the entries of a block sequence that is indented no deeper than the mapping around it. -/
def looseItems? (fuel : Nat) (ts : List Token) : Option (List Node × List Token) :=
  match fuel, ts with
  | 0, _ => none
  | fuel + 1, .entry :: rest => do
    let (item, rest) ← nodeUnless? fuel [.entry, .key, .value, .blockEnd] true false rest
    let (items, rest) ← looseItems? fuel rest
    return (item :: items, rest)
  | _ + 1, rest => some ([], rest)

/-- Reads the value after a key, which may be left out with its colon or without. -/
def valueUnless? (fuel : Nat) (ends : List Token) (inBlock : Bool) (ts : List Token) : Option (Node × List Token) :=
  match fuel, ts with
  | 0, _ => none
  | fuel + 1, .value :: rest => nodeUnless? fuel ends inBlock inBlock rest
  | _ + 1, rest => some (empty, rest)

/-- Reads the members of a block mapping. -/
def blockMembers? (fuel : Nat) (ts : List Token) : Option (List (Node × Node) × List Token) :=
  match fuel, ts with
  | fuel + 1, .key :: rest => do
    let (key, rest) ← nodeUnless? fuel [.key, .value, .blockEnd] true true rest
    let (value, rest) ← valueUnless? fuel [.key, .value, .blockEnd] true rest
    let (members, rest) ← blockMembers? fuel rest
    return ((key, value) :: members, rest)
  | _ + 1, .blockEnd :: rest => some ([], rest)
  | _, _ => none

/-- Reads the items of a sequence in brackets.  A key there starts a mapping of one member. -/
def flowItems? (fuel : Nat) (first : Bool) (ts : List Token) : Option (List Node × List Token) :=
  match fuel, ts with
  | 0, _ => none
  | _ + 1, .flowSequenceEnd :: rest => some ([], rest)
  | fuel + 1, ts => do
    match ← afterComma? first ts with
    | .flowSequenceEnd :: rest => some ([], rest)
    | .key :: rest =>
      let ends := [.comma, .flowSequenceEnd]
      let (key, rest) ← if atAny (.value :: ends) rest then some (empty, rest.drop 1) else node? fuel false false rest
      let (value, rest) ← valueUnless? fuel ends false rest
      let (items, rest) ← flowItems? fuel false rest
      some (.mapping [(key, value)] :: items, rest)
    | rest =>
      let (item, rest) ← node? fuel false false rest
      let (items, rest) ← flowItems? fuel false rest
      some (item :: items, rest)

/-- Reads the members of a mapping in braces. -/
def flowMembers? (fuel : Nat) (first : Bool) (ts : List Token) : Option (List (Node × Node) × List Token) :=
  match fuel, ts with
  | 0, _ => none
  | _ + 1, .flowMappingEnd :: rest => some ([], rest)
  | fuel + 1, ts => do
    match ← afterComma? first ts with
    | .flowMappingEnd :: rest => some ([], rest)
    | .key :: rest =>
      let ends := [.comma, .flowMappingEnd]
      let (key, rest) ← nodeUnless? fuel (.value :: ends) false false rest
      let (value, rest) ← valueUnless? fuel ends false rest
      let (members, rest) ← flowMembers? fuel false rest
      some ((key, value) :: members, rest)
    | rest =>
      let (key, rest) ← node? fuel false false rest
      let (members, rest) ← flowMembers? fuel false rest
      some ((key, empty) :: members, rest)

end

/-- Reads the node of the first document. -/
def document? (ts : List Token) : Option (Node × List Token) :=
  let fuel := 4 * ts.length + 4
  match ts with
  | [] => some (empty, [])
  | .documentStart :: rest => nodeUnless? fuel [.documentStart, .documentEnd] true false rest
  | ts => node? fuel true false ts

/-- Reads a text of at most one document. -/
def parse (text : String) : Option Node := do
  let (node, rest) ← document? (← Token.scan? text)
  if rest.all (· == .documentEnd) then some node else none

/-- The text of a scalar. -/
def text? : Node → Option String
  | .scalar s => some s.text
  | _ => none

/-- Reads a sequence, item by item; nothing at all is an empty one. -/
def listOf {α : Type} (read : Node → Option α) : Node → Option (List α)
  | .sequence items => items.mapM read
  | .scalar s => if s.isPlain && s.text.isEmpty then some [] else none
  | .mapping _ => none

/-- The members of a mapping, whose keys are scalars; an empty scalar is an empty mapping. -/
def members? : Node → Option (List (String × Node))
  | .mapping members => members.mapM fun (key, value) => key.text?.map (·, value)
  | .scalar s => if s.text.isEmpty then some [] else none
  | .sequence _ => none

/-- The fields of a record, from a mapping that names each at most once, or from a sequence of fields in order. -/
def fields? (names : List String) : Node → Option (List (String × Node))
  | .sequence items => if items.length ≤ names.length then some (names.zip items) else none
  | node => do
    let members ← node.members?
    if names.all fun n => (members.filter (·.1 == n)).length ≤ 1 then some members else none

end Node

end Yaml

end AppGateway
