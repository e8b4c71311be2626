import AppGateway.Yaml.Folding

/-!
# Block scalars

A block scalar is introduced by a bar or an angle bracket, after which its lines follow, indented.  After a bar the
lines are taken as they are; after an angle bracket a single line break between two lines that start without a blank
stands for a blank.  The header may tell the indentation and whether the line breaks at the end are kept.
-/

namespace AppGateway

namespace Yaml

/-- Which of the line breaks at the end of a block scalar count. -/
inductive Chomping where
  | strip
  | clip
  | keep
deriving DecidableEq, Repr, Inhabited

/-- What the first line of a block scalar tells. -/
structure BlockHeader where
  chomping : Chomping := .clip
  increment : Nat := 0
deriving DecidableEq, Repr, Inhabited

namespace BlockHeader

/-- The chomping that a sign stands for. -/
def sign? : Char → Option Chomping
  | '+' => some .keep
  | '-' => some .strip
  | _ => none

/-- The indentation that a digit tells; a zero is none. -/
def digit? (c : Char) : Option Nat :=
  if '1' ≤ c ∧ c ≤ '9' then some (c.toNat - '0'.toNat) else none

/-- Reads a header: a sign and a digit, in any order, each of which may be left out. -/
def take (cs : List Char) : BlockHeader × List Char :=
  match cs with
  | [] => ({}, [])
  | [c] =>
    match sign? c, digit? c with
    | some chomping, _ => ({ chomping }, [])
    | _, some increment => ({ increment }, [])
    | _, _ => ({}, cs)
  | c :: d :: rest =>
    match sign? c, digit? c, sign? d, digit? d with
    | some chomping, _, _, some increment => ({ chomping, increment }, rest)
    | some chomping, _, _, none => ({ chomping }, d :: rest)
    | none, some increment, some chomping, _ => ({ chomping, increment }, rest)
    | none, some increment, none, _ => ({ increment }, d :: rest)
    | none, none, _, _ => ({}, cs)

end BlockHeader

/-- The lines before the next line with content: the deepest indentation, the line breaks, and the text from that line
on, its indentation taken off.  `indent` is the indentation of the scalar, if known; a tab must not stand in
for it. -/
def emptyLines? (indent : Option Nat) (deepest : Nat) (p : Place) :
    List Char → Option (Nat × List Char × Place × List Char)
  | [] => some (max deepest p.column, [], p, [])
  | c :: rest =>
    let within := indent.all (p.column < ·)
    if c == ' ' && within then emptyLines? indent deepest p.next rest
    else if c == '\t' && within then none
    else if isBreak c then do
      let (deepest, breaks, p, rest) ← emptyLines? indent (max deepest p.column) p.nextLine rest
      return (deepest, c :: breaks, p, rest)
    else some (max deepest p.column, [], p, c :: rest)

/-- The text before a further line: the line break that ends the line before and those of empty lines. -/
def betweenLines (folded blankBefore blankAfter : Bool) (first others : List Char) : List Char :=
  if folded && first == ['\n'] && !blankBefore && !blankAfter then
    (if others.isEmpty then [' '] else []) ++ others
  else first ++ others

/-- Reads the lines of a block scalar with a known indentation.  `first` is the line break before the line at hand
and `others` are those of the empty lines before it; `blank` tells whether the line before starts with a blank. -/
def blockLines? (fuel : Nat) (folded : Bool) (chomping : Chomping) (indent : Nat) (blank : Bool)
    (first others : List Char) (p : Place) (cs : List Char) : Option (List Char × Place × List Char) :=
  match fuel, cs with
  | 0, _ => none
  | fuel + 1, c :: _ =>
    if p.column ≠ indent then some (ending, p, cs)
    else do
      let line := cs.takeWhile (!isBreak ·)
      let rest := cs.drop line.length
      let gap := betweenLines folded blank (isBlank c) first others
      let p := p.skip line.length
      match rest with
      | [] =>
        let (text, p, rest) ← blockLines? fuel folded chomping indent (isBlank c) [] [] p []
        return (gap ++ line ++ text, p, rest)
      | b :: rest =>
        let (_, breaks, p, rest) ← emptyLines? (some indent) 0 p.nextLine rest
        let (text, p, rest) ← blockLines? fuel folded chomping indent (isBlank c) [b] breaks p rest
        return (gap ++ line ++ text, p, rest)
  | _, [] => some (ending, p, [])
where
  /-- What counts of the line breaks at the end. -/
  ending : List Char :=
    match chomping with
    | .strip => []
    | .clip => first
    | .keep => first ++ others

/-- Reads the rest of a block scalar after its bar or angle bracket, within a collection indented by `outer`. -/
def block? (folded : Bool) (outer : Option Nat) (p : Place) (cs : List Char) :
    Option (List Char × Place × List Char) := do
  let (header, rest) := BlockHeader.take cs
  let afterBlanks := rest.dropWhile isBlank
  let rest := if afterBlanks.head? == some '#' then afterBlanks.dropWhile (!isBreak ·) else afterBlanks
  let p := p.skip (cs.length - rest.length)
  let (p, rest) ← match rest with
    | [] => some (p, [])
    | b :: rest => if isBreak b then some (p.nextLine, rest) else none
  let least := (outer.map (· + 1)).getD 0
  let told := if header.increment = 0 then none else some (outer.getD 0 + header.increment)
  let (deepest, breaks, p, rest) ← emptyLines? told 0 p rest
  let indent := told.getD (max (max deepest least) 1)
  blockLines? (rest.length + 1) folded header.chomping indent false [] breaks p rest

end Yaml

end AppGateway
