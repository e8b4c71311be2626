import AppGateway.Number.Word

/-!
# Finite binary64 numbers

A finite binary64 number is kept as a sign, a mantissa and a power of two.  All arithmetic is exact
arithmetic on natural numbers followed by one rounding, so nothing here depends on hardware floats.

* `Binary64.nearest` rounds a fraction to the nearest number, a tie going to the even mantissa.
* `Binary64.ofScientific` reads `significand · 10 ^ exponent` with at most two rounded operations; it is
  exact whenever significand and power of ten are, and may be one unit off otherwise.
-/

namespace AppGateway

namespace Binary64

/-- A mantissa and an exponent are of the format: the mantissa has 53 bits, and the first of them is set unless the
exponent is the least one. -/
structure Valid (mantissa : Nat) (exponent : Int) : Prop where
  bits : mantissa < twoPow 53
  least : -1074 ≤ exponent
  greatest : exponent ≤ 971
  normal : twoPow 52 ≤ mantissa ∨ exponent = -1074

instance (m : Nat) (e : Int) : Decidable (Valid m e) :=
  decidable_of_iff (m < twoPow 53 ∧ -1074 ≤ e ∧ e ≤ 971 ∧ (twoPow 52 ≤ m ∨ e = -1074))
    ⟨fun ⟨hb, hl, hg, hn⟩ => ⟨hb, hl, hg, hn⟩, fun h => ⟨h.bits, h.least, h.greatest, h.normal⟩⟩

end Binary64

/-- The number `± mantissa · 2 ^ exponent`. -/
structure Binary64 where
  negative : Bool
  mantissa : Nat
  exponent : Int
  valid : Binary64.Valid mantissa exponent
deriving DecidableEq, Repr

namespace Binary64

instance : Inhabited Binary64 := ⟨false, 0, -1074, by decide⟩

/-- The number of a sign, a mantissa and an exponent; none when these are not of the format. -/
def of? (negative : Bool) (magnitude : Nat × Int) : Option Binary64 :=
  if h : Valid magnitude.1 magnitude.2 then some ⟨negative, magnitude.1, magnitude.2, h⟩ else none

theorem of?_eq (negative : Bool) {m : Nat} {e : Int} (h : Valid m e) : of? negative (m, e) = some ⟨negative, m, e, h⟩ :=
  dif_pos h

/-- The numerator and denominator of `(num / den) / 2 ^ e`. -/
def scaled (num den : Nat) (e : Int) : Nat × Nat :=
  if 0 ≤ e then (num, den * twoPow e.toNat) else (num * twoPow (-e).toNat, den)

/-- The quotient rounded to the nearest integer, a half going to the even neighbour. -/
def divEven (num den : Nat) : Nat :=
  let quotient := num / den
  let rest := num % den
  if 2 * rest < den then quotient
  else if den < 2 * rest then quotient + 1
  else if quotient % 2 = 0 then quotient
  else quotient + 1

/-- The exponent of the grid of numbers around `num / den`. -/
def gridExponent (num den : Nat) : Int :=
  let e := max ((num.log2 : Int) - den.log2 - 53) (-1074)
  let (n, d) := scaled num den e
  if n / d < twoPow 53 then e else e + 1

/-- The nearest mantissa and exponent for `num / den`; none when it is too large to be finite. -/
def nearest (num den : Nat) : Option (Nat × Int) :=
  if num = 0 then some (0, -1074)
  else
    let e := gridExponent num den
    let (n, d) := scaled num den e
    let m := divEven n d
    let (m, e) := if m = twoPow 53 then (twoPow 52, e + 1) else (m, e)
    if 971 < e then none else some (m, e)

/-- The numerator and denominator of `m · 2 ^ e`. -/
def fraction (m : Nat) (e : Int) : Nat × Nat :=
  if 0 ≤ e then (m * twoPow e.toNat, 1) else (m, twoPow (-e).toNat)

/-- The rounded product of two magnitudes. -/
def mul (a b : Nat × Int) : Option (Nat × Int) :=
  let (n, d) := fraction (a.1 * b.1) (a.2 + b.2)
  nearest n d

/-- The rounded quotient of two magnitudes, the second one not zero. -/
def div (a b : Nat × Int) : Option (Nat × Int) :=
  let (n, d) := fraction a.1 (a.2 - b.2)
  nearest n (d * b.1)

/-- The magnitude nearest to `10 ^ k`, for `k ≤ 308`. -/
def powerOfTen (k : Nat) : Option (Nat × Int) :=
  nearest (tenPow k) 1

/-- The magnitude of `significand · 10 ^ exponent`: the significand is rounded first, then multiplied or
divided by a rounded power of ten.  None when the result is too large to be finite. -/
def ofScientific (significand : Nat) (exponent : Int) : Option (Nat × Int) := do
  let f ← nearest significand 1
  if f.1 = 0 then
    return f
  else if 308 < exponent then
    none
  else if 0 ≤ exponent then
    mul f (← powerOfTen exponent.toNat)
  else if -308 ≤ exponent then
    div f (← powerOfTen (-exponent).toNat)
  else if -616 ≤ exponent then
    div (← div f (← powerOfTen 308)) (← powerOfTen (-(exponent + 308)).toNat)
  else
    return (0, -1074)

end Binary64

end AppGateway
