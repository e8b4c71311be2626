import AppGateway.Text.Blank
import AppGateway.Text.Utf8

/-!
# Percent encoding and forms

Parts of a path are percent-encoded; a query is a form, in which a plus sign is a blank as well.  An escape that is
none stands for itself.
-/

namespace AppGateway

namespace Http

/-- The value of a hexadecimal digit. -/
def hexDigit? (b : Nat) : Option Nat :=
  if 0x30 ≤ b ∧ b ≤ 0x39 then some (b - 0x30)
  else if 0x41 ≤ b ∧ b ≤ 0x46 then some (b - 0x41 + 10)
  else if 0x61 ≤ b ∧ b ≤ 0x66 then some (b - 0x61 + 10)
  else none

/-- Replaces escapes by the bytes that they stand for. -/
def percentDecode : List Nat → List Nat
  | 0x25 :: a :: b :: rest =>
    match hexDigit? a, hexDigit? b with
    | some a, some b => (a * 16 + b) :: percentDecode rest
    | _, _ => 0x25 :: percentDecode (a :: b :: rest)
  | b :: rest => b :: percentDecode rest
  | [] => []

/-- The text of a part of a path; none when it is not UTF-8. -/
def decodeSegment? (segment : List Char) : Option String :=
  (Utf8.decode? (percentDecode (Utf8.encode segment))).map String.ofList

/-- The text of a name or value in a form. -/
def decodeFormText (cs : List Char) : String :=
  String.ofList (Utf8.decodeLossy (percentDecode (Utf8.encode (cs.map fun c => if c = '+' then ' ' else c))))

/-- Splits a pair of a form at its first equals sign. -/
def formPair (cs : List Char) : String × String :=
  (decodeFormText (cs.takeWhile (· ≠ '=')), decodeFormText ((cs.dropWhile (· ≠ '=')).drop 1))

/-- The pairs of a form; empty ones do not count. -/
def formPairs (query : String) : List (String × String) :=
  ((Text.splitOn '&' query.toList).filter (!·.isEmpty)).map formPair

/-- A digit to base 16, in upper case. -/
def upperHexDigit (n : Nat) : Char :=
  if n < 10 then Char.ofNat (0x30 + n) else Char.ofNat (0x41 + (n - 10))

/-- Whether a byte stands for itself in a form. -/
def isFormSafe (b : Nat) : Bool :=
  (0x30 ≤ b && b ≤ 0x39) || (0x41 ≤ b && b ≤ 0x5A) || (0x61 ≤ b && b ≤ 0x7A)
    || b == 0x2A || b == 0x2D || b == 0x2E || b == 0x5F

/-- A byte as it stands in a form. -/
def encodeFormByte (b : Nat) : List Char :=
  if b = 0x20 then ['+']
  else if isFormSafe b then [Char.ofNat b]
  else ['%', upperHexDigit (b / 16), upperHexDigit (b % 16)]

/-- A text as it stands in a form. -/
def encodeFormText (s : String) : String :=
  String.ofList ((Utf8.encode s.toList).flatMap encodeFormByte)

/-- The written form. -/
def encodeForm (pairs : List (String × String)) : String :=
  String.intercalate "&" (pairs.map fun (name, value) => encodeFormText name ++ "=" ++ encodeFormText value)

end Http

end AppGateway
