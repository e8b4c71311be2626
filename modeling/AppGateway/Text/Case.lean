import AppGateway.Text.CaseTable

/-!
# Lower case

`Text.lowercase` follows the full Unicode mapping: a capital sigma at the end of a word has a form of its own, and the
dotted capital I becomes two characters.
-/

namespace AppGateway

namespace Text

/-- Whether a code point lies in one of the ranges. -/
def inRanges (ranges : List (Nat × Nat)) (n : Nat) : Bool :=
  ranges.any fun r => r.1 ≤ n && n ≤ r.2

/-- The lower case form of a code point on its own. -/
def lowerCodePoint (n : Nat) : Nat :=
  if n < 0x80 then if 0x41 ≤ n ∧ n ≤ 0x5A then n + 0x20 else n
  else
    match lowercaseRuns.find? fun (first, last, step, _) => first ≤ n && n ≤ last && (n - first) % step == 0 with
    | some (_, _, _, distance) => (n + distance).toNat
    | none => n

/-- Whether, past characters that do not count, a cased character comes next. -/
def meetsCased (cs : List Char) : Bool :=
  match cs.dropWhile fun c => inRanges caseIgnorableRanges c.toNat with
  | c :: _ => inRanges casedRanges c.toNat
  | [] => false

/-- Lower case forms, given the characters before in reverse. -/
def lowerChars (before : List Char) : List Char → List Char
  | [] => []
  | c :: rest =>
    let lowered :=
      if c.toNat = 0x3A3 then
        if meetsCased before && !meetsCased rest then [Char.ofNat 0x3C2] else [Char.ofNat 0x3C3]
      else if c.toNat = 0x130 then [Char.ofNat 0x69, Char.ofNat 0x307]
      else [Char.ofNat (lowerCodePoint c.toNat)]
    lowered ++ lowerChars (c :: before) rest

/-- The text in lower case. -/
def lowercase (s : String) : String :=
  String.ofList (lowerChars [] s.toList)

end Text

end AppGateway
