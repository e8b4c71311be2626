import AppGateway.Text.Case
import AppGateway.Text.PrintableTable

/-!
# Quoted text in messages

`Text.quoted` puts a text into quotes so that it stands on one line and every character of it can be told: quotes,
backslashes and line breaks are escaped, and what does not print, or would merge with the character before, is
written as its code point.
-/

namespace AppGateway

namespace Text

/-- The digits of a number to base 16, in lower case. -/
def hexDigits (n : Nat) : List Char :=
  Nat.toDigits 16 n

/-- A character as it stands between quotes. -/
def quotedChar (c : Char) : List Char :=
  match c with
  | '\x00' => ['\\', '0']
  | '\t' => ['\\', 't']
  | '\n' => ['\\', 'n']
  | '\r' => ['\\', 'r']
  | '"' => ['\\', '"']
  | '\\' => ['\\', '\\']
  | c =>
    let n := c.toNat
    if 0x20 ≤ n ∧ n < 0x7F then [c]
    else if inRanges extendingRanges n || inRanges unprintableRanges n then
      ['\\', 'u', '\x7b'] ++ hexDigits n ++ ['\x7d']
    else [c]

/-- A text in quotes. -/
def quoted (s : String) : String :=
  String.ofList ('"' :: s.toList.flatMap quotedChar ++ ['"'])

end Text

end AppGateway
