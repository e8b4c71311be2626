/-!
# Places, blanks and line breaks

What the readers of scalars share: the place reached in a text, and the gap between two words of a scalar.  A gap on
one line stands for its blanks.  One that crosses lines stands for a blank if it crosses a single line break, and for
the further line breaks otherwise.
-/

namespace AppGateway

namespace Yaml

/-- A place in a text. -/
structure Place where
  line : Nat := 0
  column : Nat := 0
  offset : Nat := 0
deriving DecidableEq, Repr, Inhabited

namespace Place

/-- The place some characters further on the same line. -/
def skip (p : Place) (n : Nat) : Place :=
  { p with column := p.column + n, offset := p.offset + n }

/-- The place after a character. -/
def next (p : Place) : Place := p.skip 1

/-- The place after a line break. -/
def nextLine (p : Place) : Place :=
  { line := p.line + 1, column := 0, offset := p.offset + 1 }

end Place

/-- Whether a character is a blank within a line. -/
def isBlank (c : Char) : Bool := c == ' ' || c == '\t'

/-- Whether a character ends a line. -/
def isBreak (c : Char) : Bool := c == '\n' || c == '\u2028' || c == '\u2029'

/-- Whether a text is at its end, at a blank or at a line break. -/
def atBlank : List Char → Bool
  | [] => true
  | c :: _ => isBlank c || isBreak c

/-- Whether a text starts with the mark that starts or ends a document. -/
def atDocumentMark : List Char → Bool
  | '-' :: '-' :: '-' :: rest => atBlank rest
  | '.' :: '.' :: '.' :: rest => atBlank rest
  | _ => false

/-- Whether a character may stand in a text. -/
def isAllowed (c : Char) : Bool :=
  let n := c.toNat
  n == 0x09 || n == 0x0A || n == 0x0D || (0x20 ≤ n && n ≤ 0x7E) || n == 0x85 || (0xA0 ≤ n && n ≤ 0xFFFD)
    || 0x10000 ≤ n

/-- Writes all line breaks of one width as line feeds. -/
def unifyBreaks : List Char → List Char
  | '\r' :: '\n' :: rest => '\n' :: unifyBreaks rest
  | c :: rest => (if c == '\r' || c == '\u0085' then '\n' else c) :: unifyBreaks rest
  | [] => []

/-- What stands between two words of a scalar: the blanks before the first line break and, if there is one, the
line breaks. -/
structure Gap where
  blanks : List Char := []
  broken : Bool := false
  first : Option Char := none
  others : List Char := []
deriving DecidableEq, Repr, Inhabited

namespace Gap

/-- The gap of an escaped line break, which stands for nothing. -/
def escaped : Gap := { broken := true }

/-- Whether there is no gap. -/
def isEmpty (g : Gap) : Bool := !g.broken && g.blanks.isEmpty

/-- A gap with one more blank; after a line break it does not count. -/
def addBlank (g : Gap) (c : Char) : Gap :=
  if g.broken then g else { g with blanks := g.blanks ++ [c] }

/-- A gap with one more line break. -/
def addBreak (g : Gap) (c : Char) : Gap :=
  if g.broken then { g with others := g.others ++ [c] } else { broken := true, first := some c }

/-- The text that a gap stands for. -/
def text (g : Gap) : List Char :=
  if !g.broken then g.blanks
  else
    match g.first with
    | none => g.others
    | some c => if c ≠ '\n' then c :: g.others else if g.others.isEmpty then [' '] else g.others

end Gap

end Yaml

end AppGateway
