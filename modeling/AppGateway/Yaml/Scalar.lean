import AppGateway.Json.Source
import AppGateway.Yaml.Folding

/-!
# Scalars

The readers of plain and quoted scalars, which work through a text word by word with the gap before the
word at hand.  A plain scalar ends before a colon or a number sign that is set off by blanks, where the indentation
falls back, and within brackets also before a bracket or comma.  A quoted scalar ends at its closing quote, and neither
crosses the mark of a document.
-/

namespace AppGateway

namespace Yaml

/-- Reads the rest of a scalar after its opening single quote; a quote within it is written twice. -/
def singleQuoted? (g : Gap) (p : Place) : List Char → Option (List Char × Place × List Char)
  | [] => none
  | '\x27' :: '\x27' :: rest => do
    let (text, p, rest) ← singleQuoted? {} (p.skip 2) rest
    return (g.text ++ '\x27' :: text, p, rest)
  | '\x27' :: rest => some (g.text, p.next, rest)
  | c :: rest =>
    if isBlank c then singleQuoted? (g.addBlank c) p.next rest
    else if isBreak c then singleQuoted? (g.addBreak c) p.nextLine rest
    else if p.column = 0 ∧ atDocumentMark (c :: rest) then none
    else do
      let (text, p, rest) ← singleQuoted? {} p.next rest
      return (g.text ++ c :: text, p, rest)

/-- The character that a backslash and this letter stand for. -/
def unescape? : Char → Option Char
  | '0' => some '\x00'
  | 'a' => some '\x07'
  | 'b' => some '\x08'
  | 't' => some '\t'
  | '\t' => some '\t'
  | 'n' => some '\n'
  | 'v' => some '\x0b'
  | 'f' => some '\x0c'
  | 'r' => some '\r'
  | 'e' => some '\x1b'
  | ' ' => some ' '
  | '"' => some '"'
  | '/' => some '/'
  | '\\' => some '\\'
  | 'N' => some '\u0085'
  | '_' => some '\u00a0'
  | 'L' => some '\u2028'
  | 'P' => some '\u2029'
  | _ => none

/-- The character whose code point these hexadecimal digits write. -/
def codePoint? (digits : List Char) : Option Char := do
  let values ← digits.mapM Source.hexDigit?
  let n := values.foldl (fun n d => n * 16 + d) 0
  if n < 0xD800 ∨ (0xE000 ≤ n ∧ n ≤ 0x10FFFF) then some (Char.ofNat n) else none

/-- Reads the rest of a scalar after its opening double quote. -/
def doubleQuoted? (g : Gap) (p : Place) : List Char → Option (List Char × Place × List Char)
  | [] => none
  | '"' :: rest => some (g.text, p.next, rest)
  | '\\' :: 'x' :: a :: b :: rest => do
    let c ← codePoint? [a, b]
    let (text, p, rest) ← doubleQuoted? {} (p.skip 4) rest
    return (g.text ++ c :: text, p, rest)
  | '\\' :: 'u' :: a :: b :: c :: d :: rest => do
    let c ← codePoint? [a, b, c, d]
    let (text, p, rest) ← doubleQuoted? {} (p.skip 6) rest
    return (g.text ++ c :: text, p, rest)
  | '\\' :: 'U' :: a :: b :: c :: d :: e :: f :: h :: i :: rest => do
    let c ← codePoint? [a, b, c, d, e, f, h, i]
    let (text, p, rest) ← doubleQuoted? {} (p.skip 10) rest
    return (g.text ++ c :: text, p, rest)
  | '\\' :: c :: rest =>
    if isBreak c then do
      let (text, p, rest) ← doubleQuoted? .escaped p.next.nextLine rest
      return (g.text ++ text, p, rest)
    else do
      let c ← unescape? c
      let (text, p, rest) ← doubleQuoted? {} (p.skip 2) rest
      return (g.text ++ c :: text, p, rest)
  | c :: rest =>
    if isBlank c then doubleQuoted? (g.addBlank c) p.next rest
    else if isBreak c then doubleQuoted? (g.addBreak c) p.nextLine rest
    else if c = '\\' ∨ (p.column = 0 ∧ atDocumentMark (c :: rest)) then none
    else do
      let (text, p, rest) ← doubleQuoted? {} p.next rest
      return (g.text ++ c :: text, p, rest)

/-- Whether a character ends a plain scalar within brackets. -/
def isFlowMark (c : Char) : Bool := c == ',' || c == '[' || c == ']' || c == '\x7b' || c == '\x7d'

/-- Whether a plain scalar ends before this text, which follows a gap. -/
def plainEnds (inFlow : Bool) (indent : Nat) (g : Gap) (p : Place) (c : Char) (rest : List Char) : Bool :=
  (!g.isEmpty && ((!inFlow && p.column < indent) || (p.column == 0 && atDocumentMark (c :: rest)) || c == '#'))
    || (c == ':' && atBlank rest) || (inFlow && isFlowMark c)

/-- Reads a plain scalar whose further lines are indented by at least `indent`.  Also tells whether the place after it
lies on another line; tabs must not stand in for indentation, and within brackets a colon must not touch a mark. -/
def plain? (inFlow : Bool) (indent : Nat) (g : Gap) (p : Place) :
    List Char → Option (List Char × Bool × Place × List Char)
  | [] => some ([], g.broken, p, [])
  | c :: rest =>
    if isBlank c then
      if g.broken && c == '\t' && p.column < indent then none
      else plain? inFlow indent (g.addBlank c) p.next rest
    else if isBreak c then plain? inFlow indent (g.addBreak c) p.nextLine rest
    else if plainEnds inFlow indent g p c rest then some ([], g.broken, p, c :: rest)
    else if inFlow && c == ':' && rest.head?.any (fun d => isFlowMark d || d == '?') then none
    else do
      let (text, broken, p, rest) ← plain? inFlow indent {} p.next rest
      return (g.text ++ c :: text, broken, p, rest)

end Yaml

end AppGateway
