import AppGateway.Yaml.Block
import AppGateway.Yaml.Scalar

/-!
# Tokens

`Token.scan?` splits a text into scalars and the marks that give it structure.  Block collections have no marks of
their own at their start and end: they start where an entry or key is indented deeper than the collection around it, and
end where the indentation falls back.  A key is known as such only when the colon after it is reached, so the place
of every scalar and collection that may turn out to be a key is kept until then.
-/

namespace AppGateway

namespace Yaml

/-- A scalar; a plain one may stand for something else than its text. -/
structure Scalar where
  text : String
  isPlain : Bool
deriving DecidableEq, Repr, Inhabited

namespace Scalar

/-- The scalar that stands where there is nothing. -/
def empty : Scalar := ⟨"", true⟩

end Scalar

/-- A piece of a text. -/
inductive Token where
  | documentStart
  | documentEnd
  | blockSequence
  | blockMapping
  | blockEnd
  | flowSequence
  | flowSequenceEnd
  | flowMapping
  | flowMappingEnd
  | entry
  | comma
  | key
  | value
  | scalar (s : Scalar)
deriving DecidableEq, Repr, Inhabited

/-- A place at which a key may have started. -/
structure PossibleKey where
  place : Place
  /-- The number of tokens before it. -/
  before : Nat
  /-- Whether only a key may stand there. -/
  required : Bool
deriving DecidableEq, Repr, Inhabited

namespace PossibleKey

/-- Whether a key that started there would be too long: it has to end on its line and within 1024 characters. -/
def isStale (k : PossibleKey) (p : Place) : Bool :=
  k.place.line < p.line || k.place.offset + 1024 < p.offset

end PossibleKey

/-- The state of a scan. -/
structure Scan where
  place : Place := {}
  tokens : Array Token := #[]
  /-- The columns of the open block collections, innermost first. -/
  indents : List Nat := []
  /-- Whether a key may start at this place. -/
  keyAllowed : Bool := true
  /-- The possible key within the innermost brackets. -/
  key : Option PossibleKey := none
  /-- The possible keys around the open brackets, innermost first. -/
  outerKeys : List (Option PossibleKey) := []
deriving Inhabited

namespace Scan

/-- Whether the place is within brackets. -/
def inFlow (s : Scan) : Bool := !s.outerKeys.isEmpty

/-- Adds a token. -/
def push (s : Scan) (t : Token) : Scan := { s with tokens := s.tokens.push t }

/-- Moves on by some characters of the line. -/
def skip (s : Scan) (n : Nat) : Scan := { s with place := s.place.skip n }

/-- Opens a block collection at a column, its start put before the token at `index`, unless the innermost one is there
already. -/
def openBlock (s : Scan) (column : Nat) (index : Nat) (start : Token) : Scan :=
  if !s.inFlow && s.indents.head?.all (· < column) then
    { s with indents := column :: s.indents, tokens := s.tokens.insertIdxIfInBounds index start }
  else s

/-- Closes the innermost block collections while a condition on their columns holds. -/
def closeBlocks (s : Scan) (closes : Nat → Bool) : Scan :=
  if s.inFlow then s
  else
    { s with
      tokens := s.tokens ++ Array.replicate (s.indents.takeWhile closes).length .blockEnd
      indents := s.indents.dropWhile closes }

/-- Gives up a possible key, which fails where only a key may stand. -/
def withoutKey? (key : Option PossibleKey) : Option (Option PossibleKey) :=
  if key.any (·.required) then none else some none

/-- Gives up the possible key at hand. -/
def forgetKey? (s : Scan) : Option Scan := do
  return { s with key := ← withoutKey? s.key }

/-- Gives up the possible keys that are too far back. -/
def forgetStaleKeys? (s : Scan) : Option Scan := do
  let renew (key : Option PossibleKey) : Option (Option PossibleKey) :=
    if key.any (·.isStale s.place) then withoutKey? key else some key
  return { s with key := ← renew s.key, outerKeys := ← s.outerKeys.mapM renew }

/-- Notes that a key may start here. -/
def noteKey? (s : Scan) : Option Scan := do
  if !s.keyAllowed then return s
  let s ← s.forgetKey?
  let required := !s.inFlow && s.indents.head? == some s.place.column
  return { s with key := some { place := s.place, before := s.tokens.size, required } }

/-- Adds the mark of a document, which ends all block collections. -/
def documentMark? (s : Scan) (t : Token) : Option Scan := do
  let s ← (s.closeBlocks fun _ => true).forgetKey?
  return ({ s with keyAllowed := false }.push t).skip 3

/-- Adds an opening bracket. -/
def openFlow? (s : Scan) (t : Token) : Option Scan := do
  let s ← s.noteKey?
  return ({ s with key := none, outerKeys := s.key :: s.outerKeys, keyAllowed := true }.push t).skip 1

/-- Adds a closing bracket. -/
def closeFlow? (s : Scan) (t : Token) : Option Scan := do
  let s ← s.forgetKey?
  let s := match s.outerKeys with
    | [] => s
    | key :: outerKeys => { s with key, outerKeys }
  return ({ s with keyAllowed := false }.push t).skip 1

/-- Adds a comma. -/
def comma? (s : Scan) : Option Scan := do
  let s ← s.forgetKey?
  return ({ s with keyAllowed := true }.push .comma).skip 1

/-- Adds the dash before an entry of a block sequence, which starts where a key might. -/
def entry? (s : Scan) : Option Scan := do
  if !s.inFlow && !s.keyAllowed then none
  let s ← (s.openBlock s.place.column s.tokens.size .blockSequence).forgetKey?
  return ({ s with keyAllowed := true }.push .entry).skip 1

/-- Adds the question mark before a key. -/
def key? (s : Scan) : Option Scan := do
  if !s.inFlow && !s.keyAllowed then none
  let s ← (s.openBlock s.place.column s.tokens.size .blockMapping).forgetKey?
  return ({ s with keyAllowed := !s.inFlow }.push .key).skip 1

/-- Adds the colon before a value.  If a key may have started before it, it did. -/
def value? (s : Scan) : Option Scan :=
  match s.key with
  | some k =>
    let s := { s with tokens := s.tokens.insertIdxIfInBounds k.before .key, key := none, keyAllowed := false }
    some (((s.openBlock k.place.column k.before .blockMapping).push .value).skip 1)
  | none =>
    if !s.inFlow && !s.keyAllowed then none
    else
      let s := s.openBlock s.place.column s.tokens.size .blockMapping
      some (({ s with keyAllowed := !s.inFlow }.push .value).skip 1)

/-- Adds a scalar that has been read up to a place. -/
def addScalar (s : Scan) (text : List Char) (isPlain keyAllowed : Bool) (place : Place) : Scan :=
  { s with place, keyAllowed }.push (.scalar ⟨String.ofList text, isPlain⟩)

/-- Reads a plain scalar. -/
def plainScalar? (s : Scan) (cs : List Char) : Option (Scan × List Char) := do
  let s ← s.noteKey?
  let (text, broken, place, rest) ← plain? s.inFlow ((s.indents.head?.map (· + 1)).getD 0) {} s.place cs
  return (s.addScalar text true broken place, rest)

/-- Reads a block scalar after its bar or angle bracket. -/
def blockScalar? (s : Scan) (folded : Bool) (cs : List Char) : Option (Scan × List Char) := do
  let s ← s.forgetKey?
  let (text, place, rest) ← block? folded s.indents.head? s.place.next cs
  return (s.addScalar text false true place, rest)

/-- Reads a quoted scalar after its opening quote. -/
def quotedScalar? (s : Scan) (read : Place → List Char → Option (List Char × Place × List Char)) (cs : List Char) :
    Option (Scan × List Char) := do
  let s ← s.noteKey?
  let (text, place, rest) ← read s.place.next cs
  return (s.addScalar text false false place, rest)

/-- Skips blanks, comments and line breaks.  A tab must not stand where a key may start, and after a line break
one may start again. -/
def skipSpace (s : Scan) (inComment : Bool) : List Char → Scan × List Char
  | [] => (s, [])
  | c :: rest =>
    if isBreak c then
      skipSpace { s with place := s.place.nextLine, keyAllowed := s.keyAllowed || !s.inFlow } false rest
    else if inComment then skipSpace (s.skip 1) true rest
    else if c == '#' then skipSpace (s.skip 1) true rest
    else if c == ' ' || (c == '\t' && (s.inFlow || !s.keyAllowed)) || (c == '\ufeff' && s.place.column == 0) then
      skipSpace (s.skip 1) false rest
    else (s, c :: rest)

/-- Whether a character has a meaning of its own at the start of a scalar. -/
def isIndicator (c : Char) : Bool := "-?:,[]\x7b\x7d#&*!|>'\"%@\x60".toList.contains c

/-- Whether a plain scalar may start here. -/
def plainStarts (s : Scan) (c : Char) (rest : List Char) : Bool :=
  !(isBlank c || isBreak c || isIndicator c)
    || (c == '-' && !rest.head?.any isBlank)
    || (!s.inFlow && (c == '?' || c == ':') && !atBlank rest)

/-- Reads a token at a place that is not blank. -/
def token? (s : Scan) (cs : List Char) : Option (Scan × List Char) :=
  if s.place.column = 0 ∧ atDocumentMark cs then
    (s.documentMark? (if cs.head? == some '-' then .documentStart else .documentEnd)).map (·, cs.drop 3)
  else
    match cs with
    | [] => none
    | '[' :: rest => (s.openFlow? .flowSequence).map (·, rest)
    | '\x7b' :: rest => (s.openFlow? .flowMapping).map (·, rest)
    | ']' :: rest => (s.closeFlow? .flowSequenceEnd).map (·, rest)
    | '\x7d' :: rest => (s.closeFlow? .flowMappingEnd).map (·, rest)
    | ',' :: rest => s.comma?.map (·, rest)
    | '\x27' :: rest => s.quotedScalar? (singleQuoted? {}) rest
    | '"' :: rest => s.quotedScalar? (doubleQuoted? {}) rest
    | c :: rest =>
      if c == '-' && atBlank rest then s.entry?.map (·, rest)
      else if c == '?' && (s.inFlow || atBlank rest) then s.key?.map (·, rest)
      else if c == ':' && (s.inFlow || atBlank rest) then s.value?.map (·, rest)
      else if (c == '|' || c == '>') && !s.inFlow then s.blockScalar? (c == '>') rest
      else if s.plainStarts c rest then s.plainScalar? cs
      else none

/-- The tokens at the end of the text. -/
def finish? (s : Scan) : Option (List Token) := do
  let s ← (s.closeBlocks fun _ => true).forgetKey?
  return s.tokens.toList

/-- Reads the tokens of the rest of a text; each takes at least one character. -/
def tokens? (fuel : Nat) (s : Scan) (cs : List Char) : Option (List Token) :=
  match fuel with
  | 0 => none
  | fuel + 1 => do
    let (s, cs) := s.skipSpace false cs
    let s ← s.forgetStaleKeys?
    if cs.isEmpty then s.finish?
    else
      let (s, cs) ← (s.closeBlocks (s.place.column < ·)).token? cs
      s.tokens? fuel cs

end Scan

namespace Token

/-- The tokens of a text. -/
def scan? (text : String) : Option (List Token) :=
  if text.toList.all isAllowed then
    let cs := unifyBreaks text.toList
    Scan.tokens? (cs.length + 1) {} cs
  else none

end Token

end Yaml

end AppGateway
