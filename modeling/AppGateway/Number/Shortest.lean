import AppGateway.Number.Binary64

/-!
# The shortest decimal of a binary64 number

`Binary64.shortest` gives the decimal with the fewest digits that reads back as the number, and among those the
nearest one.  For each number of digits only the two neighbours of the exact value on that decimal grid are
tried: if any point of the grid reads back, one of the two does.

`Binary64.toText` writes it: positional while the point falls within sixteen digits or at most four zeros
follow it, and with an exponent otherwise.  A point is always written in positional notation.
-/

namespace AppGateway

namespace Binary64

/-- Whether `num / den < 10 ^ k`. -/
def belowTenTo (num den : Nat) (k : Int) : Bool :=
  if 0 ≤ k then num < den * tenPow k.toNat else num * tenPow (-k).toNat < den

/-- The number of digits before the point of `m · 2 ^ e`; negative when zeros follow the point. -/
def wholeDigits (m : Nat) (e : Int) : Int :=
  let (num, den) := fraction m e
  let k := ((m.log2 : Int) + e) * 30103 / 100000
  if belowTenTo num den k then k
  else if belowTenTo num den (k + 1) then k + 1
  else k + 2

/-- The numerator and denominator of `digits · 10 ^ k`. -/
def decimalFraction (digits : Nat) (k : Int) : Nat × Nat :=
  if 0 ≤ k then (digits * tenPow k.toNat, 1) else (digits, tenPow (-k).toNat)

/-- Whether `digits · 10 ^ k` rounds to `m · 2 ^ e`. -/
def readsBack (m : Nat) (e : Int) (digits : Nat) (k : Int) : Bool :=
  let (num, den) := decimalFraction digits k
  nearest num den == some (m, e)

/-- The nearest of the two neighbours of `m · 2 ^ e` among the multiples of `10 ^ k` that reads back. -/
def onGrid? (m : Nat) (e k : Int) : Option Nat :=
  let (num, den) := fraction m e
  let (num, den) := if 0 ≤ k then (num, den * tenPow k.toNat) else (num * tenPow (-k).toNat, den)
  let below := num / den
  let rest := num % den
  let first := if 2 * rest < den || (2 * rest == den && below % 2 == 0) then below else below + 1
  let second := if first = below then below + 1 else below
  if readsBack m e first k then some first
  else if readsBack m e second k then some second
  else none

/-- Tries grids of falling coarseness, `fuel` of them from `10 ^ k` down. -/
def firstGrid (m : Nat) (e : Int) : Nat → Int → Nat × Int
  | 0, k =>
    let (num, den) := fraction m e
    let (num, den) := if 0 ≤ k then (num, den * tenPow k.toNat) else (num * tenPow (-k).toNat, den)
    (divEven num den, k)
  | fuel + 1, k =>
    match onGrid? m e k with
    | some digits => (digits, k)
    | none => firstGrid m e fuel (k - 1)

/-- The digits and the power of ten of the shortest decimal of `m · 2 ^ e`, for `m` not zero. -/
def shortest (m : Nat) (e : Int) : Nat × Int :=
  firstGrid m e 17 (wholeDigits m e - 1)

/-- Moves trailing zeros of the digits into the power of ten; `fuel` bounds their number. -/
def dropZeros : Nat → Nat × Int → Nat × Int
  | 0, d => d
  | fuel + 1, (digits, k) =>
    if digits ≠ 0 ∧ digits % 10 = 0 then dropZeros fuel (digits / 10, k + 1) else (digits, k)

/-- So many zeros, none for a negative number. -/
def zeros (n : Int) : String :=
  String.ofList (List.replicate n.toNat '0')

/-- Writes `digits · 10 ^ k`. -/
def decimalText (digits : Nat) (k : Int) : String :=
  let ds := (toString digits).toList
  let point : Int := ds.length + k
  if 0 ≤ k ∧ point ≤ 16 then
    String.ofList ds ++ zeros k ++ ".0"
  else if 0 < point ∧ point ≤ 16 then
    String.ofList (ds.take point.toNat) ++ "." ++ String.ofList (ds.drop point.toNat)
  else if -5 < point ∧ point ≤ 0 then
    "0." ++ zeros (-point) ++ String.ofList ds
  else if ds.length = 1 then
    String.ofList ds ++ "e" ++ toString (point - 1)
  else
    String.ofList (ds.take 1) ++ "." ++ String.ofList (ds.drop 1) ++ "e" ++ toString (point - 1)

/-- The text of a number; both zeros keep their sign. -/
def toText (x : Binary64) : String :=
  let magnitude :=
    if x.mantissa = 0 then "0.0"
    else
      let (digits, k) := dropZeros 17 (shortest x.mantissa x.exponent)
      decimalText digits k
  if x.negative then "-" ++ magnitude else magnitude

end Binary64

end AppGateway
