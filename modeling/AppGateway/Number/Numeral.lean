import AppGateway.Number.Shortest

/-!
# Numbers and numerals

A `Number` is an integer of at most 64 bits, signed or unsigned, or else a finite binary64 number.  A `Numeral` is
the written form of one: digits, an optional fraction and an optional power of ten.

`Numeral.value?` reads it.  A numeral without fraction and power is an integer when it fits; everything else,
minus zero included, is a binary64 number, of whose digits only the leading ones that fit a 64-bit word count.
`Numeral.nearest?` counts all digits.
-/

namespace AppGateway

/-- An integer that a word of 64 bits holds, or a finite binary64 number. -/
inductive Number where
  | int (value : Int) (fits : Word.holds64 value = true)
  | real (value : Binary64)
deriving DecidableEq, Repr

namespace Number

/-- An integer as a number; one that no word of 64 bits holds becomes the nearest one that a word does hold. -/
def ofInt (n : Int) : Number :=
  .int (max (-(twoPow 63 : Int)) (min n (twoPow 64 - 1))) (Word.holds64_iff.mpr (by
    have hpos : 0 < twoPow 64 := by decide
    omega))

theorem ofInt_eq {n : Int} (h : Word.holds64 n = true) : ofInt n = .int n h := by
  have := Word.holds64_iff.mp h
  simp only [ofInt, Number.int.injEq]
  omega

instance : Inhabited Number := ⟨.ofInt 0⟩

/-- The text of a number. -/
def toText : Number → String
  | .int n _ => toString n
  | .real x => x.toText

/-- The value of a signed 64-bit integer. -/
def int64? : Number → Option Int
  | .int n _ => if Word.holdsSigned 64 n then some n else none
  | .real _ => none

/-- The value of an unsigned 16-bit integer. -/
def word16? : Number → Option Nat
  | .int n _ => if Word.holdsUnsigned 16 n then some n.toNat else none
  | .real _ => none

end Number

/-- A written number: a sign, the digits before and after the point, and the power of ten. -/
structure Numeral where
  negative : Bool
  whole : List Char
  fraction : List Char
  power : Option Int
deriving DecidableEq, Repr, Inhabited

namespace Numeral

/-- The value of a decimal digit. -/
def digit (c : Char) : Nat :=
  c.toNat - '0'.toNat

/-- The value of a row of digits. -/
def ofDigits (ds : List Char) : Nat :=
  ds.foldl (fun n c => n * 10 + digit c) 0

/-- Appends digits to `n` as long as the result is below `2 ^ 64`, and gives the digits left over. -/
def extend (n : Nat) : List Char → Nat × List Char
  | [] => (n, [])
  | c :: rest => if n * 10 + digit c < twoPow 64 then extend (n * 10 + digit c) rest else (n, c :: rest)

/-- The binary64 reading of a numeral. -/
def real? (x : Numeral) : Option Binary64 := do
  let (n, wholeLeft) := extend 0 x.whole
  let (n, fractionLeft) := extend n x.fraction
  let taken : Int := x.fraction.length - fractionLeft.length
  let magnitude ← Binary64.ofScientific n (x.power.getD 0 + wholeLeft.length - taken)
  Binary64.of? x.negative magnitude

/-- The binary64 number nearest to a numeral, all digits counted; none when it is too large.  Powers far beyond the
range of the format are decided without being computed. -/
def nearest? (x : Numeral) : Option Binary64 := do
  let n := ofDigits (x.whole ++ x.fraction)
  let power := x.power.getD 0 - x.fraction.length
  let reach : Int := (x.whole ++ x.fraction).length
  let magnitude ←
    if n = 0 ∨ power + reach < -400 then some (0, -1074)
    else if 400 < power then none
    else if 0 ≤ power then Binary64.nearest (n * tenPow power.toNat) 1
    else Binary64.nearest n (tenPow (-power).toNat)
  Binary64.of? x.negative magnitude

/-- The number that a numeral writes; none when it is too large. -/
def value? (x : Numeral) : Option Number :=
  let n := ofDigits x.whole
  if x.fraction = [] ∧ x.power = none ∧ !x.negative ∧ n < twoPow 64 then
    some (.ofInt n)
  else if x.fraction = [] ∧ x.power = none ∧ x.negative ∧ 0 < n ∧ n ≤ twoPow 63 then
    some (.ofInt (-n))
  else
    x.real?.map .real

end Numeral

end AppGateway
