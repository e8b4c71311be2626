import AppGateway.Number.Binary64
import Mathlib.Algebra.Order.Field.Power
import Mathlib.Data.Rat.Cast.Order
import Mathlib.Tactic.FieldSimp
import Mathlib.Tactic.Linarith
import Mathlib.Tactic.NormNum
import Mathlib.Tactic.Positivity
import Mathlib.Tactic.Ring

/-!
# Rounding to the nearest binary64 number

`Binary64.nearest` works on numerators and denominators; here it is told what it makes of the rational number that
they stand for.

* (grid) `onGrid_gridExponent`, `OnGrid.unique`: the grid on which a number is rounded is the one with 53 bits before
  its point, or the finest one;
* (value) `nearest_congr`: rounding looks at nothing but the value of a fraction;
* (closeness) `nearest_of_close`: what is closer to a number of the format than half the way to its neighbours is
  rounded to this number;
* (range) `range_of_nearest`: what is rounded to a number that is not zero is neither too small nor too large.
-/

namespace AppGateway

namespace Binary64

/-! ### Fractions -/

/-- A fraction has a value. -/
structure Fraction (f : Nat × Nat) (q : ℚ) : Prop where
  pos : 0 < f.2
  value : (f.1 : ℚ) / f.2 = q

private theorem Fraction.num_eq {f : Nat × Nat} {q : ℚ} (h : Fraction f q) : (f.1 : ℚ) = q * f.2 := by
  have hpos : (f.2 : ℚ) ≠ 0 := Nat.cast_ne_zero.mpr h.pos.ne'
  rw [← h.value, div_mul_cancel₀ _ hpos]

private theorem Fraction.num_pos {f : Nat × Nat} {q : ℚ} (h : Fraction f q) (hq : 0 < q) : 0 < f.1 := by
  have hpos : (0 : ℚ) < f.2 := Nat.cast_pos.mpr h.pos
  have hnum : (0 : ℚ) < f.1 := h.num_eq ▸ mul_pos hq hpos
  exact Nat.cast_pos.mp hnum

/-- Fractions of one value are equal crosswise. -/
theorem Fraction.cross {f f' : Nat × Nat} {q : ℚ} (h : Fraction f q) (h' : Fraction f' q) :
    f.1 * f'.2 = f'.1 * f.2 := by
  have hcross : (f.1 : ℚ) * f'.2 = f'.1 * f.2 := by
    rw [h.num_eq, h'.num_eq]
    ring
  exact_mod_cast hcross

private theorem cast_twoPow {k : Int} (h : 0 ≤ k) : ((twoPow k.toNat : Nat) : ℚ) = 2 ^ k := by
  rw [show twoPow k.toNat = 2 ^ k.toNat from rfl, Nat.cast_pow, Nat.cast_ofNat, ← zpow_natCast, Int.toNat_of_nonneg h]

theorem cast_tenPow {k : Int} (h : 0 ≤ k) : ((tenPow k.toNat : Nat) : ℚ) = 10 ^ k := by
  rw [show tenPow k.toNat = 10 ^ k.toNat from rfl, Nat.cast_pow, Nat.cast_ofNat, ← zpow_natCast, Int.toNat_of_nonneg h]

private theorem twoPow_pos (k : Nat) : 0 < twoPow k := Nat.two_pow_pos k

theorem tenPow_pos (k : Nat) : 0 < tenPow k := Nat.pow_pos (by decide)

private theorem fraction_scaled {num den : Nat} {q : ℚ} (h : Fraction (num, den) q) (e : Int) :
    Fraction (scaled num den e) (q / 2 ^ e) := by
  rw [scaled]
  split
  · rename_i he
    refine ⟨Nat.mul_pos h.pos (twoPow_pos _), ?_⟩
    rw [Nat.cast_mul, cast_twoPow he, ← div_div, h.value]
  · rename_i he
    refine ⟨h.pos, ?_⟩
    rw [Nat.cast_mul, cast_twoPow (by omega), zpow_neg, mul_div_right_comm, h.value, ← div_eq_mul_inv]

theorem fraction_fraction (m : Nat) (e : Int) : Fraction (fraction m e) (m * 2 ^ e) := by
  rw [fraction]
  split
  · rename_i he
    exact ⟨Nat.one_pos, by rw [Nat.cast_mul, cast_twoPow he, Nat.cast_one, div_one]⟩
  · rename_i he
    refine ⟨twoPow_pos _, ?_⟩
    rw [cast_twoPow (by omega), zpow_neg, div_inv_eq_mul]

/-! ### Rounding to an integer -/

private theorem divEven_mul_left {c : Nat} (hc : 0 < c) (num den : Nat) : divEven (c * num) (c * den) =
    divEven num den := by
  have hleft : 2 * (c * (num % den)) < c * den ↔ 2 * (num % den) < den := by
    rw [Nat.mul_left_comm, Nat.mul_lt_mul_left hc]
  have hright : c * den < 2 * (c * (num % den)) ↔ den < 2 * (num % den) := by
    rw [Nat.mul_left_comm, Nat.mul_lt_mul_left hc]
  simp only [divEven, Nat.mul_div_mul_left _ _ hc, Nat.mul_mod_mul_left, hleft, hright]

private theorem divEven_congr {f f' : Nat × Nat} {q : ℚ} (h : Fraction f q) (h' : Fraction f' q) :
    divEven f.1 f.2 = divEven f'.1 f'.2 :=
  calc divEven f.1 f.2 = divEven (f'.2 * f.1) (f'.2 * f.2) := (divEven_mul_left h'.pos _ _).symm
    _ = divEven (f.2 * f'.1) (f.2 * f'.2) := by
      rw [Nat.mul_comm f'.2 f.1, h.cross h', Nat.mul_comm f'.1, Nat.mul_comm f'.2]
    _ = divEven f'.1 f'.2 := divEven_mul_left h.pos _ _

/-- The rounded quotient is an integer that is nearest to it. -/
theorem divEven_bounds {f : Nat × Nat} {q : ℚ} (h : Fraction f q) :
    (divEven f.1 f.2 : ℚ) - 1 / 2 ≤ q ∧ q ≤ divEven f.1 f.2 + 1 / 2 := by
  have hpos : (0 : ℚ) < f.2 := Nat.cast_pos.mpr h.pos
  have hmod : f.2 * (f.1 / f.2) + f.1 % f.2 = f.1 := Nat.div_add_mod _ _
  have hrest : f.1 % f.2 < f.2 := Nat.mod_lt _ h.pos
  have hbounds : 2 * (f.2 * divEven f.1 f.2) ≤ 2 * f.1 + f.2 ∧ 2 * f.1 ≤ 2 * (f.2 * divEven f.1 f.2) + f.2 := by
    simp only [divEven]
    split
    · omega
    · split
      · rw [Nat.mul_add, Nat.mul_one]
        omega
      · split
        · omega
        · rw [Nat.mul_add, Nat.mul_one]
          omega
  have hbelow : (2 : ℚ) * (f.2 * divEven f.1 f.2) ≤ 2 * f.1 + f.2 := by exact_mod_cast hbounds.1
  have habove : (2 : ℚ) * f.1 ≤ 2 * (f.2 * divEven f.1 f.2) + f.2 := by exact_mod_cast hbounds.2
  rw [h.num_eq] at hbelow habove
  constructor
  · refine le_of_mul_le_mul_right ?_ hpos
    linarith
  · refine le_of_mul_le_mul_right ?_ hpos
    linarith

/-- An integer that is closer than one half is the rounded quotient. -/
theorem divEven_eq {f : Nat × Nat} {q : ℚ} (h : Fraction f q) {n : Nat} (hbelow : (n : ℚ) - 1 / 2 < q)
    (habove : q < n + 1 / 2) : divEven f.1 f.2 = n := by
  obtain ⟨hbelow', habove'⟩ := divEven_bounds h
  have hle : (divEven f.1 f.2 : ℚ) < n + 1 := by linarith
  have hge : (n : ℚ) < divEven f.1 f.2 + 1 := by linarith
  have hle : divEven f.1 f.2 < n + 1 := by exact_mod_cast hle
  have hge : n < divEven f.1 f.2 + 1 := by exact_mod_cast hge
  omega

/-! ### The grid around a number -/

/-- The grid with an exponent is the one on which a number is rounded. -/
structure OnGrid (q : ℚ) (e : Int) : Prop where
  least : -1074 ≤ e
  below : q < 2 ^ (e + 53)
  above : e = -1074 ∨ 2 ^ (e + 52) ≤ q

private theorem lt_of_zpow_lt {a b : Int} (h : (2 : ℚ) ^ a < 2 ^ b) : a < b :=
  (zpow_lt_zpow_iff_right₀ (by norm_num)).mp h

theorem zpow_le {a b : Int} (h : a ≤ b) : (2 : ℚ) ^ a ≤ 2 ^ b :=
  zpow_le_zpow_right₀ (by norm_num) h

private theorem OnGrid.le {q : ℚ} {e e' : Int} (h : OnGrid q e) (h' : OnGrid q e') : e ≤ e' := by
  rcases h.above with hleast | habove
  · exact hleast ▸ h'.least
  · have := lt_of_zpow_lt (habove.trans_lt h'.below)
    omega

theorem OnGrid.unique {q : ℚ} {e e' : Int} (h : OnGrid q e) (h' : OnGrid q e') : e = e' :=
  Int.le_antisymm (h.le h') (h'.le h)

/-- The logarithms of a numerator and a denominator tell the size of the fraction up to a factor of four. -/
private theorem log2_bounds {num den : Nat} {q : ℚ} (h : Fraction (num, den) q) (hq : 0 < q) :
    (2 : ℚ) ^ ((num.log2 : Int) - den.log2 - 1) < q ∧ q < 2 ^ ((num.log2 : Int) - den.log2 + 1) := by
  have hnum : num ≠ 0 := (h.num_pos hq).ne'
  have hden : (0 : ℚ) < den := Nat.cast_pos.mpr h.pos
  have hnum0 : (2 : ℚ) ^ (num.log2 : Int) ≤ num := by
    rw [zpow_natCast]
    exact_mod_cast Nat.log2_self_le hnum
  have hnum1 : (num : ℚ) < 2 ^ ((num.log2 : Int) + 1) := by
    rw [← Int.natCast_succ, zpow_natCast]
    exact_mod_cast Nat.lt_log2_self
  have hden0 : (2 : ℚ) ^ (den.log2 : Int) ≤ den := by
    rw [zpow_natCast]
    exact_mod_cast Nat.log2_self_le h.pos.ne'
  have hden1 : (den : ℚ) < 2 ^ ((den.log2 : Int) + 1) := by
    rw [← Int.natCast_succ, zpow_natCast]
    exact_mod_cast Nat.lt_log2_self
  rw [← h.value, lt_div_iff₀ hden, div_lt_iff₀ hden]
  constructor
  · calc (2 : ℚ) ^ ((num.log2 : Int) - den.log2 - 1) * den
        < 2 ^ ((num.log2 : Int) - den.log2 - 1) * 2 ^ ((den.log2 : Int) + 1) := by gcongr
      _ = 2 ^ (num.log2 : Int) := by
        rw [← zpow_add₀ two_ne_zero]
        congr 1
        omega
      _ ≤ num := hnum0
  · calc (num : ℚ) < 2 ^ ((num.log2 : Int) + 1) := hnum1
      _ = 2 ^ ((num.log2 : Int) - den.log2 + 1) * 2 ^ (den.log2 : Int) := by
        rw [← zpow_add₀ two_ne_zero]
        congr 1
        omega
      _ ≤ 2 ^ ((num.log2 : Int) - den.log2 + 1) * den := by gcongr

/-- The quotient of a fraction is below a power of two when the fraction is. -/
private theorem div_lt_twoPow {f : Nat × Nat} {q : ℚ} (h : Fraction f q) (k : Nat) :
    f.1 / f.2 < twoPow k ↔ q < 2 ^ (k : Int) := by
  have hpos : (0 : ℚ) < f.2 := Nat.cast_pos.mpr h.pos
  rw [Nat.div_lt_iff_lt_mul h.pos, ← h.value, div_lt_iff₀ hpos, zpow_natCast]
  exact ⟨fun hlt => by exact_mod_cast hlt, fun hlt => by exact_mod_cast hlt⟩

/-- The exponent that is computed is that of the grid around the number. -/
theorem onGrid_gridExponent {num den : Nat} {q : ℚ} (h : Fraction (num, den) q) (hq : 0 < q) :
    OnGrid q (gridExponent num den) := by
  obtain ⟨hlow, hhigh⟩ := log2_bounds h hq
  -- The first guess is at most one too small.
  have hguess (e : Int) : (scaled num den e).1 / (scaled num den e).2 < twoPow 53 ↔ q < 2 ^ (e + 53) := by
    have hpos : (0 : ℚ) < 2 ^ e := by positivity
    rw [div_lt_twoPow (fraction_scaled h e), div_lt_iff₀ hpos, ← zpow_add₀ two_ne_zero, Int.add_comm]
    rfl
  simp only [gridExponent]
  generalize hg : max ((num.log2 : Int) - den.log2 - 53) (-1074) = e
  have hleast : -1074 ≤ e := by omega
  split
  · rename_i hlt
    refine ⟨hleast, (hguess e).mp hlt, ?_⟩
    rcases le_or_gt ((num.log2 : Int) - den.log2 - 53) (-1074) with hsmall | hlarge
    · exact .inl (by omega)
    · exact .inr ((zpow_le (by omega)).trans hlow.le)
  · rename_i hge
    have hge : (2 : ℚ) ^ (e + 53) ≤ q := not_lt.mp fun hlt => hge ((hguess e).mpr hlt)
    refine ⟨by omega, hhigh.trans_le (zpow_le (by omega)), .inr ?_⟩
    rwa [show e + 1 + 52 = e + 53 by omega]

/-! ### Rounding -/

/-- What rounding on a grid gives. -/
def roundedOn (m : Nat) (e : Int) : Option (Nat × Int) :=
  let (m, e) := if m = twoPow 53 then (twoPow 52, e + 1) else (m, e)
  if 971 < e then none else some (m, e)

private theorem nearest_eq {num den : Nat} {q : ℚ} (h : Fraction (num, den) q) (hq : 0 < q) {e : Int}
    (he : OnGrid q e) : nearest num den = roundedOn (divEven (scaled num den e).1 (scaled num den e).2) e := by
  have hgrid : gridExponent num den = e := (onGrid_gridExponent h hq).unique he
  rw [nearest, if_neg (h.num_pos hq).ne', hgrid]
  rfl

theorem nearest_congr {num den num' den' : Nat} {q : ℚ} (h : Fraction (num, den) q) (h' : Fraction (num', den') q) :
    nearest num den = nearest num' den' := by
  rcases Nat.eq_zero_or_pos num with hzero | hpos
  · have hzero' : num' = 0 := by
      have hcross : num * den' = num' * den := h.cross h'
      rw [hzero, Nat.zero_mul] at hcross
      exact (Nat.mul_eq_zero.mp hcross.symm).resolve_right h.pos.ne'
    rw [nearest, nearest, if_pos hzero, if_pos hzero']
  · have hq : 0 < q := h.value ▸ div_pos (Nat.cast_pos.mpr hpos) (Nat.cast_pos.mpr h.pos)
    have hgrid := onGrid_gridExponent h hq
    rw [nearest_eq h hq hgrid, nearest_eq h' hq hgrid, divEven_congr (fraction_scaled h _) (fraction_scaled h' _)]

/-- A number is rounded to what it is close to on its grid. -/
private theorem nearest_of_onGrid {num den : Nat} {q : ℚ} (h : Fraction (num, den) q) (hq : 0 < q) {m : Nat} {e : Int}
    (hvalid : Valid m e) (hgrid : OnGrid q e) (hbelow : ((m : ℚ) - 1 / 2) * 2 ^ e < q)
    (habove : q < (m + 1 / 2) * 2 ^ e) : nearest num den = some (m, e) := by
  have hunit : (0 : ℚ) < 2 ^ e := by positivity
  have hround : divEven (scaled num den e).1 (scaled num den e).2 = m :=
    divEven_eq (fraction_scaled h e) (by rwa [lt_div_iff₀ hunit]) (by rwa [div_lt_iff₀ hunit])
  have hcarry : m ≠ twoPow 53 := hvalid.bits.ne
  rw [nearest_eq h hq hgrid, hround, roundedOn, if_neg hcarry]
  exact if_neg (Int.not_lt.mpr hvalid.greatest)

/-- What lies right below a power of two is rounded up to it on the next finer grid. -/
private theorem nearest_below_power {num den : Nat} {q : ℚ} (h : Fraction (num, den) q) {e : Int}
    (hleast : -1074 ≤ e - 1)
    (hgreatest : e ≤ 971) (hclose : ((2 : ℚ) ^ 52 - 1 / 4) * 2 ^ e < q) (hlow : q < 2 ^ (e + 52)) :
    nearest num den = some (2 ^ 52, e) := by
  have hunit : (0 : ℚ) < 2 ^ (e - 1) := by positivity
  have hhalf : (2 : ℚ) ^ e = 2 * 2 ^ (e - 1) := by
    rw [zpow_sub₀ two_ne_zero]
    ring
  have hq : 0 < q := lt_of_le_of_lt (mul_nonneg (by norm_num) (by positivity)) hclose
  have hgrid : OnGrid q (e - 1) := by
    refine ⟨hleast, by rwa [show e - 1 + 53 = e + 52 by omega], .inr (le_trans ?_ hclose.le)⟩
    rw [zpow_add₀ two_ne_zero, hhalf]
    norm_num
    linarith
  have hround : divEven (scaled num den (e - 1)).1 (scaled num den (e - 1)).2 = twoPow 53 := by
    refine divEven_eq (fraction_scaled h (e - 1)) ?_ ?_
    · rw [lt_div_iff₀ hunit]
      refine lt_of_eq_of_lt ?_ hclose
      rw [hhalf, twoPow]
      norm_num
      ring
    · rw [div_lt_iff₀ hunit]
      refine hlow.trans ?_
      rw [zpow_add₀ two_ne_zero, hhalf, twoPow]
      norm_num
      linarith
  rw [nearest_eq h hq hgrid, hround, roundedOn, if_pos rfl, Int.sub_add_cancel]
  exact if_neg (Int.not_lt.mpr hgreatest)

/-- What is closer to a number of the format than half the way to its neighbours is rounded to this number.  The
neighbour below a power of two is half as far away as the one above it. -/
theorem nearest_of_close {num den : Nat} {q : ℚ} (h : Fraction (num, den) q) {m : Nat} {e : Int} (hm : 0 < m)
    (hvalid : Valid m e) (hbelow : ((m : ℚ) - 1 / 2) * 2 ^ e < q) (hpower : m = 2 ^ 52 → ((m : ℚ) - 1 / 4) * 2 ^ e < q)
    (habove : q < (m + 1 / 2) * 2 ^ e) : nearest num den = some (m, e) := by
  have hunit : (0 : ℚ) < 2 ^ e := by positivity
  have hone : (1 : ℚ) ≤ m := by exact_mod_cast hm
  have hq : 0 < q := lt_of_le_of_lt (mul_nonneg (by linarith) hunit.le) hbelow
  by_cases hge : e = -1074 ∨ 2 ^ (e + 52) ≤ q
  · -- The number is rounded on the grid of the one that it is close to.
    have hmantissa : (m : ℚ) + 1 ≤ 2 ^ 53 := by exact_mod_cast hvalid.bits
    have hlt : q < 2 ^ (e + 53) := by
      rw [zpow_add₀ two_ne_zero]
      refine habove.trans ?_
      rw [mul_comm]
      refine mul_lt_mul_of_pos_left ?_ hunit
      norm_num at hmantissa ⊢
      linarith
    exact nearest_of_onGrid h hq hvalid ⟨hvalid.least, hlt, hge⟩ hbelow habove
  · -- A finer grid is that of the numbers right below a power of two.
    obtain ⟨hleast, hlow⟩ := not_or.mp hge
    have hlow : q < 2 ^ (e + 52) := not_le.mp hlow
    have hnormal : 2 ^ 52 ≤ m := hvalid.normal.resolve_right hleast
    have hm : m = 2 ^ 52 := by
      by_contra hne
      have hmore : (2 : ℚ) ^ 52 + 1 ≤ m := by exact_mod_cast Nat.lt_of_le_of_ne hnormal (Ne.symm hne)
      have hless : ((m : ℚ) - 1 / 2) * 2 ^ e < 2 ^ 52 * 2 ^ e := by
        refine hbelow.trans (hlow.trans_eq ?_)
        rw [zpow_add₀ two_ne_zero, mul_comm]
        rfl
      have := lt_of_mul_lt_mul_right hless hunit.le
      linarith
    subst hm
    have hclose := hpower rfl
    rw [Nat.cast_pow, Nat.cast_ofNat] at hclose
    have := hvalid.least
    exact nearest_below_power h (by omega) hvalid.greatest hclose hlow

private theorem of_roundedOn {m m' : Nat} {e e' : Int} (h : roundedOn m e = some (m', e')) (hm : m' ≠ 0) : m ≠ 0 ∧
    e ≤ 971 := by
  rw [roundedOn] at h
  by_cases hcarry : m = twoPow 53
  · rw [if_pos hcarry] at h
    refine ⟨hcarry ▸ (twoPow_pos 53).ne', ?_⟩
    by_contra hlarge
    have : (971 : Int) < e + 1 := by omega
    simp only [if_pos this, reduceCtorEq] at h
  · rw [if_neg hcarry] at h
    by_cases hlarge : (971 : Int) < e
    · simp only [if_pos hlarge, reduceCtorEq] at h
    · simp only [if_neg hlarge, Option.some.injEq, Prod.mk.injEq] at h
      exact ⟨h.1 ▸ hm, by omega⟩

/-- What is rounded to a number that is not zero is at least half of the least such number, and below the first power
of two that is too large. -/
theorem range_of_nearest {num den : Nat} {q : ℚ} (h : Fraction (num, den) q) {m : Nat} {e : Int} (hm : m ≠ 0)
    (hnearest : nearest num den = some (m, e)) : (2 : ℚ) ^ (-1075 : Int) ≤ q ∧ q < 2 ^ (1024 : Int) := by
  have hnum : num ≠ 0 := by
    rintro rfl
    simp only [nearest, if_true, Option.some.injEq, Prod.mk.injEq] at hnearest
    exact hm hnearest.1.symm
  have hq : 0 < q := h.value ▸ div_pos (Nat.cast_pos.mpr (Nat.pos_of_ne_zero hnum)) (Nat.cast_pos.mpr h.pos)
  have hgrid := onGrid_gridExponent h hq
  generalize gridExponent num den = g at hgrid
  rw [nearest_eq h hq hgrid] at hnearest
  obtain ⟨hround, hgreatest⟩ := of_roundedOn hnearest hm
  refine ⟨?_, hgrid.below.trans_le (zpow_le (by omega))⟩
  rcases hgrid.above with hleast | habove
  · have hone : (1 : ℚ) ≤ divEven (scaled num den g).1 (scaled num den g).2 := by
      exact_mod_cast Nat.one_le_iff_ne_zero.mpr hround
    have hunit : (0 : ℚ) < 2 ^ g := by positivity
    have hbelow := (divEven_bounds (fraction_scaled h g)).1
    rw [le_div_iff₀ hunit] at hbelow
    refine le_trans ?_ hbelow
    rw [show (-1075 : Int) = -1 + g by omega, zpow_add₀ two_ne_zero]
    refine mul_le_mul_of_nonneg_right ?_ hunit.le
    rw [zpow_neg_one]
    linarith
  · exact (zpow_le (by have := hgrid.least; omega)).trans habove

/-- On its grid a number is rounded to a mantissa of 53 bits, or to the next power of two. -/
private theorem OnGrid.mantissa_bounds {num den : Nat} {q : ℚ} (h : Fraction (num, den) q) {e : Int}
    (hgrid : OnGrid q e) : divEven (scaled num den e).1 (scaled num den e).2 ≤ 2 ^ 53 ∧
      (e = -1074 ∨ 2 ^ 52 ≤ divEven (scaled num den e).1 (scaled num den e).2) := by
  have hunit : (0 : ℚ) < 2 ^ e := by positivity
  obtain ⟨hbelow, habove⟩ := divEven_bounds (fraction_scaled h e)
  generalize divEven (scaled num den e).1 (scaled num den e).2 = m at *
  have hlt : q / 2 ^ e < 2 ^ 53 := by
    rw [div_lt_iff₀ hunit]
    refine hgrid.below.trans_eq ?_
    rw [zpow_add₀ two_ne_zero, mul_comm]
    rfl
  constructor
  · have hm : (m : ℚ) < 2 ^ 53 + 1 := by linarith
    have hm : m < 2 ^ 53 + 1 := by exact_mod_cast hm
    omega
  · rcases hgrid.above with hleast | hnormal
    · exact .inl hleast
    · have hge : (2 : ℚ) ^ 52 ≤ q / 2 ^ e := by
        rw [le_div_iff₀ hunit]
        refine le_of_eq_of_le ?_ hnormal
        rw [zpow_add₀ two_ne_zero, mul_comm]
        rfl
      have hm : (2 : ℚ) ^ 52 < m + 1 := by linarith
      have hm : 2 ^ 52 < m + 1 := by exact_mod_cast hm
      exact .inr (by omega)

/-- What a number is rounded to is a number of the format. -/
theorem valid_of_nearest {num den : Nat} (hden : 0 < den) {m : Nat} {e : Int} (h : nearest num den = some (m, e)) :
    Valid m e := by
  rcases Nat.eq_zero_or_pos num with hzero | hpos
  · rw [nearest, if_pos hzero] at h
    cases h
    decide
  · have hfraction : Fraction (num, den) (num / den : ℚ) := ⟨hden, rfl⟩
    have hq : (0 : ℚ) < num / den := div_pos (Nat.cast_pos.mpr hpos) (Nat.cast_pos.mpr hden)
    have hgrid := onGrid_gridExponent hfraction hq
    generalize gridExponent num den = g at hgrid
    obtain ⟨hle, hnormal⟩ := hgrid.mantissa_bounds hfraction
    have hleast := hgrid.least
    rw [nearest_eq hfraction hq hgrid, roundedOn] at h
    generalize divEven (scaled num den g).1 (scaled num den g).2 = n at *
    by_cases hcarry : n = twoPow 53
    · simp only [if_pos hcarry] at h
      split at h
      · cases h
      · cases h
        exact ⟨by decide, by omega, by omega, .inl (by decide)⟩
    · simp only [if_neg hcarry] at h
      split at h
      · cases h
      · cases h
        have hlt : m < 2 ^ 53 := Nat.lt_of_le_of_ne hle hcarry
        exact ⟨hlt, hleast, by omega, hnormal.symm⟩

end Binary64

end AppGateway
