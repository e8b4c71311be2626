import AppGateway.Number.Shortest
import AppGateway.Proofs.Number.Rounding

/-!
# The shortest decimal is read back

* (size) `tenPow_le_of_wholeDigits`: the number of digits before the point is not overestimated;
* (seventeen digits) `onGrid?_isSome`: on a grid with seventeen digits one of the two neighbours is rounded back, since
  half of its spacing is less than half the way to the neighbours of the number;
* (search) `firstGrid_readsBack`: the search stops at a decimal that is rounded back;
* (main result) `shortest_roundsTo`, also without the trailing zeros.
-/

namespace AppGateway

namespace Binary64

/-- All fractions of a value are rounded to a number. -/
def RoundsTo (q : ℚ) (m : Nat) (e : Int) : Prop :=
  ∀ num den, Fraction (num, den) q → nearest num den = some (m, e)

/-! ### Decimals -/

private theorem fraction_decimalFraction (digits : Nat) (k : Int) : Fraction (decimalFraction digits k)
    (digits * 10 ^ k) := by
  rw [decimalFraction]
  split
  · rename_i hk
    exact ⟨Nat.one_pos, by rw [Nat.cast_mul, cast_tenPow hk, Nat.cast_one, div_one]⟩
  · rename_i hk
    refine ⟨tenPow_pos _, ?_⟩
    rw [cast_tenPow (by omega), zpow_neg, div_inv_eq_mul]

private theorem roundsTo_of_readsBack {m digits : Nat} {e k : Int} (h : readsBack m e digits k = true) :
    RoundsTo (digits * 10 ^ k) m e := by
  intro num den hfraction
  rw [nearest_congr hfraction (fraction_decimalFraction digits k)]
  exact eq_of_beq h

theorem RoundsTo.nearest_decimalFraction {m digits : Nat} {e k : Int} (h : RoundsTo (digits * 10 ^ k) m e) :
    nearest (decimalFraction digits k).1 (decimalFraction digits k).2 = some (m, e) :=
  h _ _ (fraction_decimalFraction digits k)

private theorem readsBack_of_roundsTo {m digits : Nat} {e k : Int} (h : RoundsTo (digits * 10 ^ k) m e) :
    readsBack m e digits k = true :=
  beq_iff_eq.mpr h.nearest_decimalFraction

/-- A decimal that is rounded to a number that is not zero is neither too small nor too large. -/
theorem RoundsTo.range {m digits : Nat} {e k : Int} (h : RoundsTo (digits * 10 ^ k) m e) (hm : m ≠ 0) :
    (2 : ℚ) ^ (-1075 : Int) ≤ digits * 10 ^ k ∧ (digits : ℚ) * 10 ^ k < 2 ^ (1024 : Int) :=
  range_of_nearest (fraction_decimalFraction digits k) hm h.nearest_decimalFraction

theorem RoundsTo.digits_ne_zero {m digits : Nat} {e k : Int} (h : RoundsTo (digits * 10 ^ k) m e) (hm : m ≠ 0) :
    digits ≠ 0 := by
  rintro rfl
  have hpos : (0 : ℚ) < 2 ^ (-1075 : Int) := by positivity
  have hvalue := hpos.trans_le (h.range hm).1
  rw [Nat.cast_zero, zero_mul] at hvalue
  exact lt_irrefl _ hvalue

/-- The fraction of a number in units of a power of ten. -/
def inUnits (f : Nat × Nat) (k : Int) : Nat × Nat :=
  if 0 ≤ k then (f.1, f.2 * tenPow k.toNat) else (f.1 * tenPow (-k).toNat, f.2)

private theorem fraction_inUnits {f : Nat × Nat} {q : ℚ} (h : Fraction f q) (k : Int) :
    Fraction (inUnits f k) (q / 10 ^ k) := by
  rw [inUnits]
  split
  · rename_i hk
    refine ⟨Nat.mul_pos h.pos (tenPow_pos _), ?_⟩
    rw [Nat.cast_mul, cast_tenPow hk, ← div_div, h.value]
  · rename_i hk
    refine ⟨h.pos, ?_⟩
    rw [Nat.cast_mul, cast_tenPow (by omega), zpow_neg, mul_div_right_comm, h.value, ← div_eq_mul_inv]

/-! ### The digits before the point -/

private theorem belowTenTo_iff {num den : Nat} {q : ℚ} (h : Fraction (num, den) q) (k : Int) :
    belowTenTo num den k = true ↔ q < 10 ^ k := by
  have hden : (0 : ℚ) < den := Nat.cast_pos.mpr h.pos
  rw [belowTenTo, ← h.value, div_lt_iff₀ hden]
  split
  · rename_i hk
    rw [decide_eq_true_iff, ← Nat.cast_lt (α := ℚ), Nat.cast_mul, cast_tenPow hk, mul_comm]
  · rename_i hk
    have hunit : (0 : ℚ) < 10 ^ k := by positivity
    rw [decide_eq_true_iff, ← Nat.cast_lt (α := ℚ), Nat.cast_mul, cast_tenPow (by omega), zpow_neg, ← div_eq_mul_inv,
      div_lt_iff₀ hunit, mul_comm (den : ℚ)]

/-- The decimal logarithm of a power of two is estimated well enough: `59 / 196` is a little less than that of two, and
`28 / 93` a little more. -/
private theorem tenPow_le_twoPow {l : Int} (hlow : -1074 ≤ l) (hhigh : l ≤ 1023) :
    (10 : ℚ) ^ (l * 30103 / 100000 - 1) ≤ 2 ^ l := by
  generalize hk : l * 30103 / 100000 - 1 = k
  have hten : (0 : ℚ) ≤ 10 ^ k := by positivity
  have htwo : (0 : ℚ) ≤ 2 ^ l := by positivity
  rcases le_or_gt 0 l with hl | hl
  · rw [← pow_le_pow_iff_left₀ hten htwo (show 196 ≠ 0 by decide)]
    calc ((10 : ℚ) ^ k) ^ 196 = 10 ^ (k * 196) := (zpow_mul _ _ _).symm
      _ ≤ 10 ^ (59 * l) := zpow_le_zpow_right₀ (by norm_num) (by omega)
      _ = ((10 : ℚ) ^ 59) ^ l := zpow_mul _ _ _
      _ ≤ ((2 : ℚ) ^ 196) ^ l := zpow_le_zpow_left₀ hl (by norm_num) (by norm_num)
      _ = (2 ^ l) ^ 196 := by
        rw [← zpow_natCast, ← zpow_natCast, ← zpow_mul, ← zpow_mul, mul_comm]
  · rw [← pow_le_pow_iff_left₀ hten htwo (show 93 ≠ 0 by decide)]
    calc ((10 : ℚ) ^ k) ^ 93 = 10 ^ (k * 93) := (zpow_mul _ _ _).symm
      _ ≤ 10 ^ (28 * l) := zpow_le_zpow_right₀ (by norm_num) (by omega)
      _ = ((10 : ℚ) ^ 28) ^ l := zpow_mul _ _ _
      _ ≤ ((2 : ℚ) ^ 93) ^ l := by
        have hle : ((2 : ℚ) ^ 93) ^ (-l) ≤ (10 ^ 28) ^ (-l) :=
          zpow_le_zpow_left₀ (by omega) (by norm_num) (by norm_num)
        have hinv := inv_anti₀ (by positivity) hle
        rwa [← zpow_neg, ← zpow_neg, Int.neg_neg] at hinv
      _ = (2 ^ l) ^ 93 := by
        rw [← zpow_natCast, ← zpow_natCast, ← zpow_mul, ← zpow_mul, mul_comm]

theorem tenPow_le_of_wholeDigits {m : Nat} {e : Int} (hm : 0 < m) (hvalid : Valid m e) :
    (10 : ℚ) ^ (wholeDigits m e - 1) ≤ m * 2 ^ e := by
  have hvalue := fraction_fraction m e
  simp only [wholeDigits]
  generalize hk : ((m.log2 : Int) + e) * 30103 / 100000 = k
  split
  · have hlog : m.log2 < 53 := (Nat.log2_lt hm.ne').mpr hvalid.bits
    have hmantissa : (2 : ℚ) ^ (m.log2 : Int) ≤ m := by
      rw [zpow_natCast]
      exact_mod_cast Nat.log2_self_le hm.ne'
    calc (10 : ℚ) ^ (k - 1) ≤ 2 ^ ((m.log2 : Int) + e) := by
          rw [← hk]
          exact tenPow_le_twoPow (by have := hvalid.least; omega) (by have := hvalid.greatest; omega)
      _ = 2 ^ (m.log2 : Int) * 2 ^ e := zpow_add₀ two_ne_zero _ _
      _ ≤ m * 2 ^ e := by gcongr
  · rename_i hlow
    have hlow : (10 : ℚ) ^ k ≤ m * 2 ^ e := not_lt.mp fun hlt => hlow ((belowTenTo_iff hvalue k).mpr hlt)
    split
    · rwa [Int.add_sub_cancel]
    · rename_i hhigh
      rw [show k + 2 - 1 = k + 1 by omega]
      exact not_lt.mp fun hlt => hhigh ((belowTenTo_iff hvalue (k + 1)).mpr hlt)

/-! ### One grid -/

/-- The first of the neighbours that are tried is the rounded quotient. -/
private theorem first_eq_divEven (num den : Nat) :
    (if (2 * (num % den) < den || (2 * (num % den) == den && num / den % 2 == 0)) = true then num / den
      else num / den + 1) = divEven num den := by
  simp only [divEven, Bool.or_eq_true, decide_eq_true_iff, Bool.and_eq_true, beq_iff_eq]
  split <;> split <;> first | omega | (split <;> first | omega | (split <;> omega))

/-- The nearest multiple of a power of ten. -/
def nearestOn (m : Nat) (e k : Int) : Nat :=
  divEven (inUnits (fraction m e) k).1 (inUnits (fraction m e) k).2

/-- On a grid the nearest decimal is tried, and then another one. -/
theorem onGrid?_eq (m : Nat) (e k : Int) : ∃ second, onGrid? m e k =
    if readsBack m e (nearestOn m e k) k then some (nearestOn m e k)
    else if readsBack m e second k then some second
    else none := by
  by_cases hk : 0 ≤ k
  · simp only [onGrid?, nearestOn, inUnits, if_pos hk, first_eq_divEven]
    exact ⟨_, rfl⟩
  · simp only [onGrid?, nearestOn, inUnits, if_neg hk, first_eq_divEven]
    exact ⟨_, rfl⟩

private theorem readsBack_of_onGrid? {m digits : Nat} {e k : Int} (h : onGrid? m e k = some digits) :
    readsBack m e digits k = true := by
  obtain ⟨second, heq⟩ := onGrid?_eq m e k
  rw [heq] at h
  split at h
  · rename_i hfirst
    exact Option.some.inj h ▸ hfirst
  · split at h
    · rename_i hsecond
      exact Option.some.inj h ▸ hsecond
    · cases h

/-- On a grid that is fine enough the nearest decimal is rounded back. -/
theorem onGrid?_isSome {m : Nat} {e k : Int} (hm : 0 < m) (hvalid : Valid m e) (hfine : (10 : ℚ) ^ k < 2 ^ e)
    (hpower : m = 2 ^ 52 → (2 : ℚ) * 10 ^ k < 2 ^ e) : (onGrid? m e k).isSome = true := by
  have hunit : (0 : ℚ) < 10 ^ k := by positivity
  obtain ⟨hbelow, habove⟩ := divEven_bounds (fraction_inUnits (fraction_fraction m e) k)
  rw [le_div_iff₀ hunit] at hbelow
  rw [div_le_iff₀ hunit] at habove
  have hfirst : readsBack m e (nearestOn m e k) k = true := by
    rw [nearestOn]
    refine readsBack_of_roundsTo fun num den hfraction => nearest_of_close hfraction hm hvalid ?_ ?_ ?_
    · linarith
    · intro h
      have := hpower h
      linarith
    · linarith
  obtain ⟨second, heq⟩ := onGrid?_eq m e k
  rw [heq, if_pos hfirst]
  rfl

/-! ### The search -/

/-- The search stops at a decimal that is rounded back, if there is one on one of its grids. -/
theorem firstGrid_readsBack {m : Nat} {e : Int} {fuel : Nat} {k : Int}
    (h : ∃ i : Nat, i < fuel ∧ (onGrid? m e (k - i)).isSome = true) :
    readsBack m e (firstGrid m e fuel k).1 (firstGrid m e fuel k).2 = true := by
  induction fuel generalizing k with
  | zero =>
    obtain ⟨i, hi, -⟩ := h
    omega
  | succ fuel ih =>
    rw [firstGrid]
    cases hgrid : onGrid? m e k with
    | some digits => exact readsBack_of_onGrid? hgrid
    | none =>
      obtain ⟨i, hi, hsome⟩ := h
      cases i with
      | zero =>
        rw [Nat.cast_zero, Int.sub_zero, hgrid] at hsome
        cases hsome
      | succ i =>
        refine ih ⟨i, by omega, ?_⟩
        rwa [show k - 1 - (i : Int) = k - (i + 1 : Nat) by omega]

/-- The shortest digits of a number round to it. -/
theorem shortest_roundsTo {m : Nat} {e : Int} (hm : 0 < m) (hvalid : Valid m e) :
    RoundsTo ((shortest m e).1 * 10 ^ (shortest m e).2) m e := by
  refine roundsTo_of_readsBack (firstGrid_readsBack ⟨16, by decide, onGrid?_isSome hm hvalid ?_ ?_⟩)
  all_goals
    have hwhole := tenPow_le_of_wholeDigits hm hvalid
    have hunit : (0 : ℚ) < 2 ^ e := by positivity
    have hten : (10 : ℚ) ^ (wholeDigits m e - 1) = 10 ^ 16 * 10 ^ (wholeDigits m e - 1 - (16 : Nat)) := by
      rw [← zpow_natCast, ← zpow_add₀ (by norm_num)]
      congr 1
      omega
    rw [hten] at hwhole
  · -- Sixteen digits after the first one are finer than the mantissa.
    have hmantissa : (m : ℚ) * 2 ^ e < 2 ^ 53 * 2 ^ e :=
      mul_lt_mul_of_pos_right (by exact_mod_cast hvalid.bits) hunit
    norm_num at hwhole hmantissa ⊢
    linarith
  · intro hpower
    have hmantissa : (m : ℚ) = 2 ^ 52 := by exact_mod_cast hpower
    rw [hmantissa] at hwhole
    norm_num at hwhole ⊢
    linarith

/-! ### Trailing zeros -/

theorem dropZeros_value (fuel : Nat) (d : Nat × Int) :
    ((dropZeros fuel d).1 : ℚ) * 10 ^ (dropZeros fuel d).2 = d.1 * 10 ^ d.2 := by
  induction fuel generalizing d with
  | zero => rfl
  | succ fuel ih =>
    obtain ⟨digits, k⟩ := d
    rw [dropZeros]
    split
    · rename_i hzero
      rw [ih]
      have hdigits : (digits : ℚ) = (digits / 10 : Nat) * 10 := by
        exact_mod_cast (Nat.div_mul_cancel (Nat.dvd_of_mod_eq_zero hzero.2)).symm
      rw [hdigits, zpow_add₀ (by norm_num), zpow_one]
      ring
    · rfl

end Binary64

end AppGateway
