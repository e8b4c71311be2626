import AppGateway.Json.Source
import AppGateway.Proofs.Number.Shortest
import AppGateway.Proofs.Time.Reread

/-!
# Numbers are read back from their numerals

* (writing) `Number.toList_toText`: the text of a number is that of a numeral, `Number.numeral`;
* (grammar) `Source.numeral?_magnitudeChars`: a numeral is read back from its text, if something else follows;
* (value) `value_decimalNumeral`: the numeral of a decimal has its value, wherever the point stands;
* (size) `Binary64.isSome_ofScientific_bind`: what is read is of the binary64 format, or too large;
* (main result) `Number.number?_numeral`: the number that the numeral of a number stands for is that number.
-/

namespace AppGateway

namespace Source

theorem isDigit_iff {c : Char} : isDigit c = true ↔ 48 ≤ c.toNat ∧ c.toNat ≤ 57 := Timestamp.isDigit_iff

/-- Digits are taken as far as they go. -/
theorem takeWhile_digits {ds rest : List Char} (hds : ∀ c ∈ ds, isDigit c = true)
    (hrest : ∀ c ∈ rest.head?, isDigit c = false) :
    (ds ++ rest).takeWhile isDigit = ds ∧ (ds ++ rest).dropWhile isDigit = rest := by
  rw [List.takeWhile_append_of_pos hds, List.dropWhile_append_of_pos hds]
  cases rest with
  | nil => exact ⟨List.append_nil ds, rfl⟩
  | cons c rest =>
    have hc : isDigit c = false := hrest c rfl
    rw [List.takeWhile_cons_of_neg (by rw [hc]; exact Bool.false_ne_true),
      List.dropWhile_cons_of_neg (by rw [hc]; exact Bool.false_ne_true), List.append_nil]
    exact ⟨rfl, rfl⟩

end Source

namespace Numeral

open Source (isDigit)

/-- The text of the digits of a fraction. -/
def fractionChars (fraction : List Char) : List Char :=
  if fraction = [] then [] else '.' :: fraction

/-- The text of a power of ten. -/
def powerChars : Option Int → List Char
  | none => []
  | some power => 'e' :: (toString power).toList

/-- The text of a numeral after its sign. -/
def magnitudeChars (x : Numeral) : List Char :=
  x.whole ++ (fractionChars x.fraction ++ powerChars x.power)

/-- The text of a numeral. -/
def chars (x : Numeral) : List Char :=
  if x.negative then '-' :: x.magnitudeChars else x.magnitudeChars

/-- A numeral is made of digits, of which a leading zero stands alone. -/
structure WellFormed (x : Numeral) : Prop where
  digits : ∀ c ∈ x.whole ++ x.fraction, isDigit c = true
  nonempty : x.whole ≠ []
  leading : x.whole.head? = some '0' → x.whole.length = 1

/-- The value of a numeral without its sign. -/
def magnitude (x : Numeral) : ℚ :=
  ofDigits (x.whole ++ x.fraction) * 10 ^ (x.power.getD 0 - x.fraction.length)

/-- The integer that a numeral without a fraction and a power stands for. -/
def integer (x : Numeral) : Int := if x.negative then -(ofDigits x.whole : Int) else ofDigits x.whole

/-- The number that a numeral stands for: an integer if it has neither a fraction nor a power, and the nearest binary64
number if it has one.  There is none if it is too large. -/
def number? (x : Numeral) : Option Number :=
  if x.fraction = [] ∧ x.power = none then
    if h : Word.holds64 x.integer then some (.int x.integer h) else none
  else x.nearest?.map .real

/-! ### Digits -/

private theorem ofDigits_eq (ds : List Char) : ofDigits ds = Nat.ofDigitChars 10 ds 0 := Timestamp.ofDigits_eq ds

private theorem ofDigits_lt {ds : List Char} (h : ∀ c ∈ ds, isDigit c = true) : ofDigits ds < 10 ^ ds.length :=
  Timestamp.ofDigits_lt h

/-- The digits of a number. -/
def digitsOf (n : Nat) : List Char := (toString n).toList

private theorem digitsOf_eq (n : Nat) : digitsOf n = Nat.toDigits 10 n := Nat.toList_repr

private theorem digitsOf_ne_nil (n : Nat) : digitsOf n ≠ [] := by
  rw [digitsOf_eq]
  exact Nat.toDigits_ne_nil

theorem isDigit_of_mem_digitsOf {n : Nat} {c : Char} (h : c ∈ digitsOf n) : isDigit c = true := by
  rw [digitsOf_eq] at h
  have hc : c.isDigit = true := Nat.isDigit_of_mem_toDigits (by decide) (by decide) h
  simp only [Char.isDigit, Bool.and_eq_true, decide_eq_true_eq] at hc
  exact Source.isDigit_iff.mpr hc

private theorem ofDigits_digitsOf (n : Nat) : ofDigits (digitsOf n) = n := by
  rw [ofDigits_eq, digitsOf_eq, Nat.ofDigitChars_ten_toDigits]

/-- The digits of a number begin with a zero only if there is no other one. -/
theorem leading_digitsOf {n : Nat} (h : (digitsOf n).head? = some '0') : (digitsOf n).length = 1 := by
  obtain ⟨rest, hrest⟩ : ∃ rest, digitsOf n = '0' :: rest := by
    cases hds : digitsOf n with
    | nil => exact absurd hds (digitsOf_ne_nil n)
    | cons c rest =>
      rw [hds, List.head?_cons, Option.some.injEq] at h
      exact ⟨rest, h ▸ rfl⟩
  have hvalue : n = ofDigits rest := by
    rw [← ofDigits_digitsOf n, hrest]
    rfl
  have hlt : n < 10 ^ rest.length := by
    rw [hvalue]
    exact ofDigits_lt fun c hc => isDigit_of_mem_digitsOf (hrest ▸ List.mem_cons_of_mem _ hc)
  rcases Nat.eq_zero_or_pos rest.length with hzero | hpos
  · rw [hrest, List.length_cons, hzero]
  · have hlength := (Nat.length_toDigits_le_iff (by decide) hpos).mpr hlt
    rw [← digitsOf_eq, hrest, List.length_cons] at hlength
    omega

private theorem head?_digitsOf {n : Nat} (hn : n ≠ 0) : (digitsOf n).head? ≠ some '0' := by
  intro hhead
  have hlength := leading_digitsOf hhead
  have hvalue := ofDigits_digitsOf n
  cases hds : digitsOf n with
  | nil => exact digitsOf_ne_nil n hds
  | cons c rest =>
    rw [hds] at hhead hlength hvalue
    cases hhead
    rw [List.length_eq_zero_iff.mp (Nat.succ.inj hlength)] at hvalue
    exact hn hvalue.symm

theorem toList_toString_int (n : Int) :
    (toString n).toList = if n < 0 then '-' :: digitsOf n.natAbs else digitsOf n.natAbs := by
  rw [Int.toString_eq_repr, Int.repr_eq_if]
  split
  · rename_i h
    rw [if_neg (by omega), show n.toNat = n.natAbs by omega]
    rfl
  · rename_i h
    rw [if_pos (by omega), show (-n).toNat = n.natAbs by omega, String.toList_append]
    rfl

/-! ### Reading -/

/-- What may follow a numeral. -/
def Ends (rest : List Char) : Prop := ∀ c ∈ rest.head?, isDigit c = false ∧ c ≠ '.' ∧ c ≠ 'e' ∧ c ≠ 'E'

private theorem powerDigits?_digitsOf (negative : Bool) (n : Nat) {rest : List Char} (hrest : Ends rest) :
    Source.powerDigits? negative (digitsOf n ++ rest) = some (some (if negative then -(n : Int) else n), rest) := by
  obtain ⟨htake, hdrop⟩ :=
    Source.takeWhile_digits (fun c => isDigit_of_mem_digitsOf (n := n)) fun c hc => (hrest c hc).1
  have hempty : (digitsOf n).isEmpty = false := by simpa using digitsOf_ne_nil n
  simp only [Source.powerDigits?, htake, hdrop, hempty, Bool.false_eq_true, if_false, ofDigits_digitsOf]

private theorem power?_powerChars (power : Option Int) {rest : List Char} (hrest : Ends rest) :
    Source.power? (powerChars power ++ rest) = some (power, rest) := by
  cases power with
  | none =>
    cases rest with
    | nil => rfl
    | cons c rest =>
      obtain ⟨-, -, he, hE⟩ := hrest c rfl
      simp only [powerChars, List.nil_append, Source.power?, beq_iff_eq, he, hE, Bool.or_eq_true, or_self, if_false]
  | some power =>
    rw [powerChars, toList_toString_int, List.cons_append]
    split
    · show Source.powerDigits? true (digitsOf power.natAbs ++ rest) = _
      rw [powerDigits?_digitsOf true _ hrest, if_pos rfl, show -(power.natAbs : Int) = power by omega]
    · have hread := powerDigits?_digitsOf false power.natAbs hrest
      rw [if_neg Bool.false_ne_true, show (power.natAbs : Int) = power by omega] at hread
      cases hds : digitsOf power.natAbs with
      | nil => exact absurd hds (digitsOf_ne_nil _)
      | cons c ds =>
        -- A digit is no sign.
        have hc : isDigit c = true := isDigit_of_mem_digitsOf (hds ▸ List.mem_cons_self)
        rw [hds] at hread
        rw [← hread]
        simp only [List.cons_append, Source.power?, beq_self_eq_true, Bool.true_or, if_true]
        split
        · rename_i heq
          cases heq
          cases hc
        · rename_i heq
          cases heq
          cases hc
        · rfl

private theorem head?_powerChars (power : Option Int) {rest : List Char} (hrest : Ends rest) :
    ∀ c ∈ (powerChars power ++ rest).head?, isDigit c = false ∧ c ≠ '.' := by
  cases power with
  | none => exact fun c hc => ⟨(hrest c hc).1, (hrest c hc).2.1⟩
  | some power =>
    rintro c ⟨⟩
    decide

private theorem fraction?_fractionChars {fraction : List Char} (hfraction : ∀ c ∈ fraction, isDigit c = true)
    {rest : List Char} (hrest : ∀ c ∈ rest.head?, isDigit c = false ∧ c ≠ '.') :
    Source.fraction? (fractionChars fraction ++ rest) = some (fraction, rest) := by
  rw [fractionChars]
  split
  · rename_i hnone
    rw [hnone, List.nil_append]
    cases rest with
    | nil => rfl
    | cons c rest =>
      rw [Source.fraction?.eq_2]
      rintro rest ⟨⟩
      exact (hrest '.' rfl).2 rfl
  · rename_i hsome
    obtain ⟨htake, hdrop⟩ := Source.takeWhile_digits hfraction fun c hc => (hrest c hc).1
    have hempty : fraction.isEmpty = false := by simpa using hsome
    simp only [List.cons_append, Source.fraction?, htake, hdrop, hempty, Bool.false_eq_true, if_false]

/-- A numeral is read back from its text. -/
theorem numeral?_magnitudeChars {x : Numeral} (h : x.WellFormed) {rest : List Char} (hrest : Ends rest) :
    Source.numeral? x.negative (x.magnitudeChars ++ rest) = some (x, rest) := by
  have hwhole : ∀ c ∈ x.whole, isDigit c = true := fun c hc => h.digits c (List.mem_append_left _ hc)
  have hfraction := fraction?_fractionChars (fun c hc => h.digits c (List.mem_append_right _ hc))
    (head?_powerChars x.power hrest)
  have hpower := power?_powerChars x.power hrest
  have hpoint : ∀ c ∈ (fractionChars x.fraction ++ (powerChars x.power ++ rest)).head?, isDigit c = false := by
    intro c hc
    rw [fractionChars] at hc
    split at hc
    · exact (head?_powerChars x.power hrest c hc).1
    · cases hc
      decide
  obtain ⟨htake, hdrop⟩ := Source.takeWhile_digits hwhole hpoint
  have hleading : (x.whole.isEmpty || (x.whole.head? == some '0' && x.whole.length != 1)) = false := by
    have hempty : x.whole.isEmpty = false := by simpa using h.nonempty
    rw [hempty, Bool.false_or, Bool.and_eq_false_iff]
    by_cases hzero : x.whole.head? = some '0'
    · exact .inr (by simpa using h.leading hzero)
    · exact .inl (by simpa using hzero)
  rw [magnitudeChars, List.append_assoc, List.append_assoc]
  simp only [Source.numeral?, htake, hdrop, hleading, Bool.false_eq_true, if_false, hfraction, Option.bind_eq_bind,
    Option.bind_some, hpower]
  rfl

/-! ### Values -/

/-- No power of two of the format is out of the reach of `10 ^ 400`. -/
private theorem tenPow_400 : (2 : ℚ) ^ (1024 : Int) ≤ 10 ^ (400 : Int) ∧ (10 : ℚ) ^ (-400 : Int) ≤ 2 ^ (-1075 : Int) :=
    by
  have height : ((2 : ℚ) ^ (3 : Int)) ^ (400 : Int) ≤ 10 ^ (400 : Int) :=
    zpow_le_zpow_left₀ (by decide) (by norm_num) (by norm_num)
  rw [← zpow_mul] at height
  constructor
  · exact (Binary64.zpow_le (by decide)).trans height
  · calc (10 : ℚ) ^ (-400 : Int) = (10 ^ (400 : Int))⁻¹ := zpow_neg _ _
      _ ≤ (2 ^ (3 * 400 : Int))⁻¹ := inv_anti₀ (by positivity) height
      _ = 2 ^ (-(3 * 400) : Int) := (zpow_neg _ _).symm
      _ ≤ 2 ^ (-1075 : Int) := Binary64.zpow_le (by decide)

/-- A numeral is read as the number that its value is rounded to. -/
private theorem nearest?_of_roundsTo {x : Numeral} (hdigits : ∀ c ∈ x.whole ++ x.fraction, isDigit c = true) {m : Nat}
    {e : Int} (hm : m ≠ 0) (h : Binary64.RoundsTo x.magnitude m e) : x.nearest? = Binary64.of? x.negative (m, e) := by
  rw [magnitude] at h
  have hnearest := h.nearest_decimalFraction
  have hn := h.digits_ne_zero hm
  obtain ⟨hleast, hgreatest⟩ := h.range hm
  have hlt : (ofDigits (x.whole ++ x.fraction) : ℚ) < 10 ^ ((x.whole ++ x.fraction).length : Int) := by
    rw [zpow_natCast]
    exact_mod_cast ofDigits_lt hdigits
  simp only [nearest?]
  generalize ofDigits (x.whole ++ x.fraction) = n at *
  generalize x.power.getD 0 - (x.fraction.length : Int) = power at *
  generalize (x.whole ++ x.fraction).length = reach at *
  have hunit : (0 : ℚ) < 10 ^ power := by positivity
  have hsmall : ¬ power + reach < -400 := by
    intro hsmall
    have hvalue : (n : ℚ) * 10 ^ power < 10 ^ (-400 : Int) :=
      calc (n : ℚ) * 10 ^ power < 10 ^ (reach : Int) * 10 ^ power := mul_lt_mul_of_pos_right hlt hunit
        _ = 10 ^ (power + reach) := by rw [← zpow_add₀ (by norm_num), Int.add_comm]
        _ ≤ 10 ^ (-400 : Int) := zpow_le_zpow_right₀ (by norm_num) hsmall.le
    exact absurd (hleast.trans_lt hvalue) (not_lt.mpr tenPow_400.2)
  have hlarge : ¬ 400 < power := by
    intro hlarge
    have hone : (1 : ℚ) ≤ n := by exact_mod_cast Nat.one_le_iff_ne_zero.mpr hn
    have hvalue : (10 : ℚ) ^ (400 : Int) ≤ n * 10 ^ power :=
      calc (10 : ℚ) ^ (400 : Int) ≤ 10 ^ power := zpow_le_zpow_right₀ (by norm_num) hlarge.le
        _ ≤ n * 10 ^ power := le_mul_of_one_le_left hunit.le hone
    exact absurd (hgreatest.trans_le tenPow_400.1) (not_lt.mpr hvalue)
  rw [if_neg (not_or.mpr ⟨hn, hsmall⟩), if_neg hlarge]
  rw [Binary64.decimalFraction] at hnearest
  split
  · rename_i hpower
    rw [if_pos hpower] at hnearest
    rw [hnearest]
    rfl
  · rename_i hpower
    rw [if_neg hpower] at hnearest
    rw [hnearest]
    rfl

end Numeral

/-! ### The numerals of numbers -/

namespace Binary64

open Numeral (digitsOf ofDigits)

/-- The numeral of a decimal. -/
def decimalNumeral (negative : Bool) (digits : Nat) (k : Int) : Numeral :=
  let ds := digitsOf digits
  let point : Int := ds.length + k
  if 0 ≤ k ∧ point ≤ 16 then ⟨negative, ds ++ List.replicate k.toNat '0', ['0'], none⟩
  else if 0 < point ∧ point ≤ 16 then ⟨negative, ds.take point.toNat, ds.drop point.toNat, none⟩
  else if -5 < point ∧ point ≤ 0 then ⟨negative, ['0'], List.replicate (-point).toNat '0' ++ ds, none⟩
  else ⟨negative, ds.take 1, ds.drop 1, some (point - 1)⟩

/-- The numeral of a number. -/
def numeral (x : Binary64) : Numeral :=
  if x.mantissa = 0 then ⟨x.negative, ['0'], ['0'], none⟩
  else
    let (digits, k) := dropZeros 17 (shortest x.mantissa x.exponent)
    decimalNumeral x.negative digits k

private theorem toList_decimalText (negative : Bool) (digits : Nat) (k : Int) :
    (decimalText digits k).toList = (decimalNumeral negative digits k).magnitudeChars := by
  simp only [decimalText, decimalNumeral, zeros]
  have hds : (toString digits).toList = digitsOf digits := rfl
  rw [hds]
  have hpos : 0 < (digitsOf digits).length := List.length_pos_of_ne_nil (Numeral.digitsOf_ne_nil digits)
  generalize digitsOf digits = ds at *
  have hpoint {fraction : List Char} (h : fraction ≠ []) : Numeral.fractionChars fraction = '.' :: fraction := if_neg h
  split
  · simp only [Numeral.magnitudeChars, Numeral.powerChars, String.toList_append, String.toList_ofList, List.append_nil]
    rfl
  · split
    · have hfraction : ds.drop ((ds.length : Int) + k).toNat ≠ [] := by
        rw [ne_eq, List.drop_eq_nil_iff]
        omega
      simp only [Numeral.magnitudeChars, Numeral.powerChars, hpoint hfraction, String.toList_append,
        String.toList_ofList, List.append_nil, List.append_assoc]
      rfl
    · split
      · have hfraction : List.replicate (-((ds.length : Int) + k)).toNat '0' ++ ds ≠ [] :=
          List.append_ne_nil_of_right_ne_nil _ (List.ne_nil_of_length_pos hpos)
        simp only [Numeral.magnitudeChars, Numeral.powerChars, hpoint hfraction, String.toList_append,
          String.toList_ofList, List.append_nil, List.append_assoc]
        rfl
      · split
        · rename_i hone
          rw [List.drop_eq_nil_iff.mpr hone.le, List.take_of_length_le hone.le]
          simp only [Numeral.magnitudeChars, Numeral.powerChars, String.toList_append, String.toList_ofList,
            List.append_assoc]
          rfl
        · have hfraction : ds.drop 1 ≠ [] := by
            rw [ne_eq, List.drop_eq_nil_iff]
            omega
          simp only [Numeral.magnitudeChars, Numeral.powerChars, hpoint hfraction, String.toList_append,
            String.toList_ofList, List.append_assoc]
          rfl

/-- Wherever the point stands, the numeral of a decimal has its value. -/
private theorem magnitude_decimalNumeral (negative : Bool) (digits : Nat) (k : Int) :
    (decimalNumeral negative digits k).magnitude = digits * 10 ^ k := by
  have hvalue := Numeral.ofDigits_digitsOf digits
  have hpos : 0 < (digitsOf digits).length := List.length_pos_of_ne_nil (Numeral.digitsOf_ne_nil digits)
  simp only [decimalNumeral, Numeral.magnitude]
  generalize digitsOf digits = ds at *
  split
  · rename_i h
    have hzeros : ofDigits (ds ++ List.replicate k.toNat '0' ++ ['0']) = digits * tenPow k.toNat * 10 := by
      rw [Numeral.ofDigits_eq] at hvalue ⊢
      rw [Nat.ofDigitChars_append, Nat.ofDigitChars_append, Nat.ofDigitChars_replicate_zero, hvalue, tenPow]
      show 10 * (10 ^ k.toNat * digits) + 0 = digits * 10 ^ k.toNat * 10
      ring
    rw [hzeros, Nat.cast_mul, Nat.cast_mul, cast_tenPow h.1]
    norm_num
    ring
  · split
    · rename_i h
      rw [List.take_append_drop, hvalue, List.length_drop]
      congr 2
      simp only [Option.getD_none]
      omega
    · split
      · rename_i h
        have hzeros : ofDigits (['0'] ++ (List.replicate (-((ds.length : Int) + k)).toNat '0' ++ ds)) = digits := by
          rw [Numeral.ofDigits_eq] at hvalue ⊢
          rw [← List.append_assoc, ← List.replicate_one, ← List.replicate_add, Nat.ofDigitChars_append,
            Nat.ofDigitChars_replicate_zero, Nat.mul_zero, hvalue]
        rw [hzeros, List.length_append, List.length_replicate]
        congr 2
        simp only [Option.getD_none]
        omega
      · rw [List.take_append_drop, hvalue, List.length_drop]
        congr 2
        simp only [Option.getD_some]
        omega

private theorem wellFormed_decimalNumeral (negative : Bool) {digits : Nat} (hdigits : digits ≠ 0) (k : Int) :
    (decimalNumeral negative digits k).WellFormed := by
  have hall : ∀ c ∈ digitsOf digits, Source.isDigit c = true := fun c => Numeral.isDigit_of_mem_digitsOf
  have hne : digitsOf digits ≠ [] := Numeral.digitsOf_ne_nil digits
  have hzero : ∀ n, ∀ c ∈ List.replicate n '0', Source.isDigit c = true := by
    intro n c hc
    rw [List.eq_of_mem_replicate hc]
    decide
  have hhead : (digitsOf digits).head? ≠ some '0' := Numeral.head?_digitsOf hdigits
  simp only [decimalNumeral]
  generalize digitsOf digits = ds at *
  have hpos : 0 < ds.length := List.length_pos_of_ne_nil hne
  have htake {n : Nat} (hn : 0 < n) : ds.take n ≠ [] ∧ (ds.take n).head? ≠ some '0' := by
    obtain ⟨c, rest, rfl⟩ := List.exists_cons_of_ne_nil hne
    obtain ⟨n, rfl⟩ := Nat.exists_eq_succ_of_ne_zero hn.ne'
    exact ⟨List.cons_ne_nil _ _, hhead⟩
  split
  · refine ⟨?_, List.append_ne_nil_of_left_ne_nil hne _, fun h => absurd ?_ hhead⟩
    · simp only [List.mem_append]
      rintro c ((hc | hc) | hc)
      · exact hall c hc
      · exact hzero _ c hc
      · exact hzero 1 c hc
    · rwa [List.head?_append_of_ne_nil _ hne] at h
  · split
    · rename_i h
      obtain ⟨hnil, hlead⟩ := htake (n := ((ds.length : Int) + k).toNat) (by omega)
      exact ⟨by rwa [List.take_append_drop], hnil, fun h => absurd h hlead⟩
    · split
      · refine ⟨?_, List.cons_ne_nil _ _, fun _ => rfl⟩
        simp only [List.mem_append]
        rintro c (hc | hc | hc)
        · exact hzero 1 c hc
        · exact hzero _ c hc
        · exact hall c hc
      · obtain ⟨hnil, hlead⟩ := htake (n := 1) Nat.one_pos
        exact ⟨by rwa [List.take_append_drop], hnil, fun h => absurd h hlead⟩

private theorem negative_decimalNumeral (negative : Bool) (digits : Nat) (k : Int) :
    (decimalNumeral negative digits k).negative = negative := by
  simp only [decimalNumeral]
  split
  · rfl
  · split
    · rfl
    · split <;> rfl

/-- A decimal is never written without both a fraction and a power. -/
private theorem not_integer_decimalNumeral (negative : Bool) (digits : Nat) (k : Int) :
    ¬ ((decimalNumeral negative digits k).fraction = [] ∧ (decimalNumeral negative digits k).power = none) := by
  have hpos : 0 < (digitsOf digits).length := List.length_pos_of_ne_nil (Numeral.digitsOf_ne_nil digits)
  simp only [decimalNumeral]
  generalize digitsOf digits = ds at *
  split
  · exact fun h => absurd h.1 (List.cons_ne_nil _ _)
  · split
    · rintro ⟨h, -⟩
      rw [List.drop_eq_nil_iff] at h
      omega
    · split
      · exact fun h => absurd h.1 (List.append_ne_nil_of_right_ne_nil _ (List.ne_nil_of_length_pos hpos))
      · rintro ⟨-, ⟨⟩⟩

theorem toList_toText (x : Binary64) : x.toText.toList = x.numeral.chars := by
  have hsign (magnitude : String) (y : Numeral) (hy : y.negative = x.negative)
      (h : magnitude.toList = y.magnitudeChars) :
      (if x.negative = true then "-" ++ magnitude else magnitude).toList = y.chars := by
    rw [Numeral.chars, hy]
    split
    · rw [String.toList_append, h]
      rfl
    · exact h
  rw [toText, numeral]
  by_cases hm : x.mantissa = 0
  · rw [if_pos hm, if_pos hm]
    exact hsign "0.0" ⟨x.negative, ['0'], ['0'], none⟩ rfl rfl
  · rw [if_neg hm, if_neg hm]
    exact hsign _ _ (negative_decimalNumeral _ _ _) (toList_decimalText _ _ _)

/-- The decimal that is written for a number is rounded to it. -/
theorem written_roundsTo {m : Nat} {e : Int} (hm : m ≠ 0) (hvalid : Valid m e) :
    RoundsTo ((dropZeros 17 (shortest m e)).1 * 10 ^ (dropZeros 17 (shortest m e)).2) m e := by
  rw [dropZeros_value]
  exact shortest_roundsTo (Nat.pos_of_ne_zero hm) hvalid

private theorem wellFormed_numeral (x : Binary64) : x.numeral.WellFormed := by
  rw [numeral]
  split
  · have hdigits : ∀ c ∈ ['0', '0'], Source.isDigit c = true :=
      List.forall_mem_cons.mpr ⟨rfl, List.forall_mem_singleton.mpr rfl⟩
    exact ⟨hdigits, List.cons_ne_nil _ _, fun _ => rfl⟩
  · rename_i hm
    exact wellFormed_decimalNumeral _ ((written_roundsTo hm x.valid).digits_ne_zero hm) _

theorem number?_numeral (x : Binary64) : x.numeral.number? = some (.real x) := by
  obtain ⟨negative, m, e, h⟩ := x
  rw [numeral]
  split
  · rename_i hm
    obtain rfl : m = 0 := hm
    have hnormal : 2 ^ 52 ≤ 0 ∨ e = -1074 := h.normal
    obtain rfl : e = -1074 := hnormal.resolve_left (by decide)
    rfl
  · rename_i hm
    have hround := written_roundsTo hm h
    have hdigits :=
      (wellFormed_decimalNumeral negative (hround.digits_ne_zero hm) (dropZeros 17 (shortest m e)).2).digits
    rw [← magnitude_decimalNumeral negative] at hround
    rw [Numeral.number?, if_neg (not_integer_decimalNumeral _ _ _), Numeral.nearest?_of_roundsTo hdigits hm hround,
      negative_decimalNumeral, of?_eq _ h]
    rfl

end Binary64

namespace Number

/-- The numeral of a number. -/
def numeral : Number → Numeral
  | .int n _ => ⟨decide (n < 0), Numeral.digitsOf n.natAbs, [], none⟩
  | .real x => x.numeral

theorem toList_toText (n : Number) : n.toText.toList = n.numeral.chars := by
  cases n with
  | int n _ =>
    rw [toText, Numeral.toList_toString_int]
    simp only [numeral, Numeral.chars, Numeral.magnitudeChars, Numeral.fractionChars, Numeral.powerChars, if_true,
      List.append_nil, decide_eq_true_eq]
  | real x => exact x.toList_toText

theorem wellFormed_numeral (n : Number) : n.numeral.WellFormed := by
  cases n with
  | int n _ =>
    refine ⟨fun c hc => ?_, Numeral.digitsOf_ne_nil _, Numeral.leading_digitsOf⟩
    rw [numeral, List.append_nil] at hc
    exact Numeral.isDigit_of_mem_digitsOf hc
  | real x => exact x.wellFormed_numeral

/-- The number that the numeral of a number stands for is that number. -/
theorem number?_numeral (n : Number) : n.numeral.number? = some n := by
  cases n with
  | int n fits =>
    have hinteger : (numeral (.int n fits)).integer = n := by
      simp only [numeral, Numeral.integer, Numeral.ofDigits_digitsOf, decide_eq_true_eq]
      split <;> omega
    rw [Numeral.number?, if_pos ⟨rfl, rfl⟩]
    simp only [hinteger, dif_pos fits]
  | real x => exact x.number?_numeral

end Number

/-! ### Numbers that were read -/

namespace Binary64

private theorem valid_of_mul {a b : Nat × Int} {m : Nat} {e : Int} (h : mul a b = some (m, e)) : Valid m e :=
  valid_of_nearest (fraction_fraction (a.1 * b.1) (a.2 + b.2)).pos h

private theorem valid_of_div {a b : Nat × Int} (hb : 0 < b.1) {m : Nat} {e : Int} (h : div a b = some (m, e)) :
    Valid m e :=
  valid_of_nearest (Nat.mul_pos (fraction_fraction a.1 (a.2 - b.2)).pos hb) h

private theorem powerOfTen_pos : ∀ k < 309, ∀ p ∈ powerOfTen k, 0 < p.1 := by decide +kernel

/-- What is read of a significand and an exponent is a number of the format. -/
private theorem valid_of_ofScientific {n : Nat} {exponent : Int} {m : Nat} {e : Int}
    (h : ofScientific n exponent = some (m, e)) : Valid m e := by
  obtain ⟨f, hf, h⟩ := Option.bind_eq_some_iff.mp h
  split at h
  · cases h
    exact valid_of_nearest Nat.one_pos hf
  · split at h
    · cases h
    · split at h
      · obtain ⟨p, -, h⟩ := Option.bind_eq_some_iff.mp h
        exact valid_of_mul h
      · split at h
        · obtain ⟨p, hp, h⟩ := Option.bind_eq_some_iff.mp h
          exact valid_of_div (powerOfTen_pos _ (by omega) p hp) h
        · split at h
          · obtain ⟨p, -, h⟩ := Option.bind_eq_some_iff.mp h
            obtain ⟨x, -, h⟩ := Option.bind_eq_some_iff.mp h
            obtain ⟨p', hp', h⟩ := Option.bind_eq_some_iff.mp h
            exact valid_of_div (powerOfTen_pos _ (by omega) p' hp') h
          · cases h
            decide

/-- A numeral is refused for its size alone: the parts of every magnitude that is read are of the format. -/
theorem isSome_ofScientific_bind (n : Nat) (exponent : Int) (negative : Bool) :
    ((ofScientific n exponent).bind (of? negative)).isSome = (ofScientific n exponent).isSome := by
  cases hf : ofScientific n exponent with
  | none => rfl
  | some magnitude => rw [Option.bind_some, of?_eq negative (valid_of_ofScientific hf), Option.isSome_some,
      Option.isSome_some]

end Binary64

end AppGateway
