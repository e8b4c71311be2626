import AppGateway.Proofs.Time.Calendar
import AppGateway.Time.Timestamp
import Mathlib.Algebra.Group.Nat.Defs

/-!
# Timestamps are read back as they were written

* (digits) `digits?_padded`: a number is read off the digits that it was written with;
* (writing) `parse_toText`: a timestamp whose parts are in range (`Timestamp.Valid`) is read back as it was written;
* (reading) `valid_of_parse`: a timestamp that was read is in range, so it is read back from its text
  (`reread_text`), and from its whole seconds if it was read from whole seconds (`reread_seconds`).
-/

namespace AppGateway

namespace Timestamp

open Text (trimStart isBlank)

/-! ### Digits -/

theorem isDigit_iff {c : Char} : isDigit c = true ↔ 48 ≤ c.toNat ∧ c.toNat ≤ 57 := by
  simp only [isDigit, Bool.and_eq_true, decide_eq_true_eq]
  exact Iff.rfl

theorem ofDigits_eq (ds : List Char) : ofDigits ds = Nat.ofDigitChars 10 ds 0 := by
  simp only [ofDigits, Nat.ofDigitChars_eq_foldl, Nat.mul_comm]

private theorem isBlank_of_isDigit {c : Char} (h : isDigit c = true) : isBlank c = false := by
  obtain ⟨h0, h1⟩ := isDigit_iff.mp h
  simp only [isBlank, Bool.or_eq_false_iff, Bool.and_eq_false_iff, decide_eq_false_iff_not, beq_eq_false_iff_ne]
  omega

private theorem trimStart_of_not_blank {c : Char} (h : isBlank c = false) (cs : List Char) :
    trimStart (c :: cs) = c :: cs := by
  simp [trimStart, h]

/-- Digits that come first are skipped by nothing. -/
theorem trimStart_digits {ds : List Char} (hds : ∀ c ∈ ds, isDigit c = true) (hne : ds ≠ []) (rest : List Char) :
    trimStart (ds ++ rest) = ds ++ rest := by
  cases ds with
  | nil => exact absurd rfl hne
  | cons c ds => exact trimStart_of_not_blank (isBlank_of_isDigit (hds c (by simp))) _

/-- Digits are read as far as they go, when they fill the width or something else follows. -/
theorem digits?_append {width : Nat} {ds rest : List Char} (hds : ∀ c ∈ ds, isDigit c = true) (hne : ds ≠ [])
    (hlen : ds.length ≤ width) (hrest : ds.length = width ∨ ∀ c ∈ rest.head?, isDigit c = false) :
    digits? width (ds ++ rest) = some (ofDigits ds, rest) := by
  have htake : ((ds ++ rest).take width).takeWhile isDigit = ds := by
    rw [List.take_append, List.take_of_length_le hlen, List.takeWhile_append_of_pos hds]
    rcases hrest with hfull | hstop
    · simp [hfull]
    · cases rest with
      | nil => simp
      | cons c rest =>
        have hc : isDigit c = false := hstop c (by simp)
        cases width - ds.length <;> simp [hc]
  have hempty : ds.isEmpty = false := by simpa using hne
  simp only [digits?, htake, hempty, Bool.false_eq_true, if_false, List.drop_left]

private theorem padded_eq (width n : Nat) :
    padded width n = List.replicate (width - (Nat.toDigits 10 n).length) '0' ++ Nat.toDigits 10 n := by
  have h : (toString n).toList = Nat.toDigits 10 n := Nat.toList_repr
  rw [padded, h]

private theorem isDigit_of_mem_padded {width n : Nat} {c : Char} (h : c ∈ padded width n) : isDigit c = true := by
  rw [padded_eq, List.mem_append] at h
  rcases h with h | h
  · rw [List.eq_of_mem_replicate h]
    decide
  · have hc : c.isDigit = true := Nat.isDigit_of_mem_toDigits (by decide) (by decide) h
    simp only [Char.isDigit, Bool.and_eq_true, decide_eq_true_eq] at hc
    exact isDigit_iff.mpr hc

private theorem padded_ne_nil (width n : Nat) : padded width n ≠ [] := by
  rw [padded_eq]
  simp [Nat.toDigits_ne_nil]

@[simp] theorem ofDigits_padded (width n : Nat) : ofDigits (padded width n) = n := by
  rw [ofDigits_eq, padded_eq, Nat.ofDigitChars_append, Nat.ofDigitChars_replicate_zero, Nat.mul_zero,
    Nat.ofDigitChars_ten_toDigits]

private theorem length_padded {width n : Nat} (hw : 0 < width) (hn : n < 10 ^ width) : (padded width n).length =
    width := by
  have hlen : (Nat.toDigits 10 n).length ≤ width := (Nat.length_toDigits_le_iff (by decide) hw).mpr hn
  rw [padded_eq, List.length_append, List.length_replicate]
  omega

/-- A number is read off the digits that it was written with, whatever follows. -/
theorem digits?_padded {width n : Nat} (hw : 0 < width) (hn : n < 10 ^ width) (rest : List Char) :
    digits? width (padded width n ++ rest) = some (n, rest) := by
  have hlen := length_padded hw hn
  rw [digits?_append (fun c => isDigit_of_mem_padded) (padded_ne_nil width n) (Nat.le_of_eq hlen) (.inl hlen),
    ofDigits_padded]

/-! ### The parts of a timestamp -/

private theorem part?_padded {least greatest n : Nat} (h0 : least ≤ n) (h1 : n ≤ greatest) (hn : n < 100)
    (rest : List Char) : part? least greatest (padded 2 n ++ rest) = some (n, rest) := by
  rw [part?, trimStart_digits (fun c => isDigit_of_mem_padded) (padded_ne_nil 2 n), digits?_padded (by decide) hn]
  simp [h0, h1]

private theorem mark?_cons {c : Char} (h : isBlank c = false) (rest : List Char) : mark? c (c :: rest) = some rest := by
  rw [mark?, trimStart_of_not_blank h]
  exact if_pos rfl

/-- The digits of a year that is written with a sign end at the mark after it. -/
private theorem digits?_signed (n : Nat) (rest : List Char) :
    digits? (padded 4 n ++ '-' :: rest).length (padded 4 n ++ '-' :: rest) = some (n, '-' :: rest) := by
  have hstop : ∀ c ∈ ('-' :: rest).head?, isDigit c = false := by
    intro c hc
    cases hc
    decide
  rw [digits?_append (fun c => isDigit_of_mem_padded) (padded_ne_nil 4 n) (by simp) (.inr hstop), ofDigits_padded]

private theorem year?_yearChars (year : Int) (rest : List Char) :
    year? (yearChars year ++ '-' :: rest) = some (year, '-' :: rest) := by
  rw [yearChars]
  split
  · rename_i h
    have hn : year.toNat < 10 ^ 4 := by omega
    have hyear : (year.toNat : Int) = year := by omega
    have hread : digits? 4 (padded 4 year.toNat ++ '-' :: rest) = some (year.toNat, '-' :: rest) :=
      digits?_padded (by decide) hn _
    rw [year?, trimStart_digits (fun c => isDigit_of_mem_padded) (padded_ne_nil 4 _)]
    -- A year within four digits does not begin with a sign.
    cases hp : padded 4 year.toNat with
    | nil => exact absurd hp (padded_ne_nil 4 _)
    | cons c cs =>
      have hc : 48 ≤ c.toNat ∧ c.toNat ≤ 57 := isDigit_iff.mp (isDigit_of_mem_padded (by rw [hp]; simp))
      rw [hp] at hread
      rw [List.cons_append] at hread ⊢
      split
      · rename_i hminus
        cases hminus
        exact absurd hc (by decide)
      · rename_i hplus
        cases hplus
        exact absurd hc (by decide)
      · rw [hread, Option.map_some, ← hyear]
        rfl
  · split
    · rename_i h
      have hyear : -(year.natAbs : Int) = year := by omega
      rw [List.cons_append, year?, trimStart_of_not_blank (by decide)]
      simp only [digits?_signed, Option.map_some, hyear]
    · rename_i h h'
      have hyear : (year.natAbs : Int) = year := by omega
      rw [List.cons_append, year?, trimStart_of_not_blank (by decide)]
      simp only [digits?_signed, Option.map_some, hyear]

/-- A fraction is read off its digits, which count from the left. -/
private theorem fraction?_padded {width n : Nat} (hw : 0 < width) (hw' : width ≤ 9) (hn : n < 10 ^ width) :
    fraction? ('.' :: (padded width n ++ ['Z'])) = some (n * 10 ^ (9 - width), ['Z']) := by
  have hlen := length_padded hw hn
  have hdigits : (padded width n ++ ['Z']).takeWhile isDigit = padded width n := by
    rw [List.takeWhile_append_of_pos (fun c => isDigit_of_mem_padded)]
    simp [show isDigit 'Z' = false by decide]
  have htake : (padded width n).take 9 = padded width n := List.take_of_length_le (by omega)
  have hempty : (padded width n).isEmpty = false := by simpa using padded_ne_nil width n
  have hdrop : (padded width n ++ ['Z']).drop (padded width n).length = ['Z'] := List.drop_left
  rw [fraction?, hdigits, htake, hdrop, hlen]
  simp only [hempty, Bool.false_eq_true, if_false, ofDigits_padded]
  rfl

private theorem fraction?_fractionChars {nanos : Nat} (h : nanos < 1000000000) :
    fraction? (fractionChars nanos ++ ['Z']) = some (nanos, ['Z']) := by
  rw [fractionChars]
  split
  · rename_i h0
    rw [h0]
    rfl
  · split
    · rename_i h3
      rw [List.cons_append, fraction?_padded (by decide) (by decide) (by omega)]
      congr 2
      omega
    · split
      · rename_i h6
        rw [List.cons_append, fraction?_padded (by decide) (by decide) (by omega)]
        congr 2
        omega
      · rw [List.cons_append, fraction?_padded (by decide) (by decide) (by omega)]
        congr 2
        omega

/-! ### Whole timestamps -/

/-- A timestamp that can be written: its date exists, and it has a second's fraction, or that of a leap second at the
end of a minute. -/
structure Valid (t : Timestamp) : Prop where
  date : t.date.isValid = true
  nanoseconds : t.nanoseconds < 1000000000 ∨ t.nanoseconds < 2000000000 ∧ t.seconds % 60 = 59

/-- What is read of a written date and time of day. -/
private theorem parseChars_parts {date : Calendar.Date} (hdate : date.isValid = true) (hour minute second nanos : Nat)
    (hhour : hour ≤ 23) (hminute : minute ≤ 59) (hsecond : second ≤ 60) (hnanos : nanos < 1000000000) :
    parseChars (yearChars date.year ++ '-' :: padded 2 date.month ++ '-' :: padded 2 date.day ++ 'T' :: padded 2 hour
        ++ ':' :: padded 2 minute ++ ':' :: padded 2 second ++ fractionChars nanos ++ ['Z']) =
      let t : Timestamp :=
        ⟨date.toDays * 86400 + (hour * 3600 + minute * 60 + (if second == 60 then 59 else second : Nat)),
          if second == 60 then nanos + 1000000000 else nanos⟩
      if t.date.isValid then some t else none := by
  have hbounds := hdate
  simp only [Calendar.Date.isValid, Bool.and_eq_true, decide_eq_true_eq] at hbounds
  have hdays : Calendar.daysInMonth date.year date.month ≤ 31 := by
    rw [Calendar.daysInMonth]
    split
    · split <;> omega
    · split <;> omega
  have month (rest) : part? 1 12 (padded 2 date.month ++ rest) = some (date.month, rest) :=
    part?_padded (by omega) (by omega) (by omega) rest
  have day (rest) : part? 1 31 (padded 2 date.day ++ rest) = some (date.day, rest) :=
    part?_padded (by omega) (by omega) (by omega) rest
  have hour' (rest) : part? 0 23 (padded 2 hour ++ rest) = some (hour, rest) :=
    part?_padded (by omega) (by omega) (by omega) rest
  have minute' (rest) : part? 0 59 (padded 2 minute ++ rest) = some (minute, rest) :=
    part?_padded (by omega) (by omega) (by omega) rest
  have second' (rest) : part? 0 60 (padded 2 second ++ rest) = some (second, rest) :=
    part?_padded (by omega) (by omega) (by omega) rest
  have dash (rest) : mark? '-' ('-' :: rest) = some rest := mark?_cons (by decide) rest
  have colon (rest) : mark? ':' (':' :: rest) = some rest := mark?_cons (by decide) rest
  have offset : offset? (trimStart ['Z']) = some (0, []) := by decide
  simp only [List.append_assoc, List.cons_append]
  rw [parseChars]
  dsimp only [Option.bind_eq_bind]
  rw [year?_yearChars, Option.bind_some]
  dsimp only
  rw [dash, Option.bind_some, month, Option.bind_some]
  dsimp only
  rw [dash, Option.bind_some, day, Option.bind_some]
  dsimp only
  rw [if_pos (Or.inl rfl), Option.bind_some, hour', Option.bind_some]
  dsimp only
  rw [colon, Option.bind_some, minute', Option.bind_some]
  dsimp only
  rw [colon, Option.bind_some, second', Option.bind_some]
  dsimp only
  rw [fraction?_fractionChars hnanos, Option.bind_some]
  dsimp only
  rw [offset, Option.bind_some]
  simp [hdate, trimStart]

/-- The parts in which a timestamp is written make up the timestamp. -/
private theorem parts_eq {t : Timestamp} (h : t.Valid) {s : Nat} (hs : (s : Int) = t.secondOfDay) :
    (⟨t.date.toDays * 86400 + (((s / 3600 : Nat) : Int) * 3600 + ((s / 60 % 60 : Nat) : Int) * 60
        + ((if s % 60 + t.nanoseconds / 1000000000 == 60 then 59 else s % 60 + t.nanoseconds / 1000000000 : Nat) : Int)),
      if s % 60 + t.nanoseconds / 1000000000 == 60 then t.nanoseconds % 1000000000 + 1000000000
        else t.nanoseconds % 1000000000⟩ : Timestamp) = t := by
  obtain ⟨seconds, nanos⟩ := t
  have hdays : (⟨seconds, nanos⟩ : Timestamp).date.toDays = seconds / 86400 := Calendar.Date.toDays_ofDays _
  have hnanos : nanos < 1000000000 ∨ nanos < 2000000000 ∧ seconds % 60 = 59 := h.nanoseconds
  replace hs : (s : Int) = seconds % 86400 := hs
  rw [hdays]
  by_cases hleap : nanos < 1000000000
  · have hsecond : (s % 60 + nanos / 1000000000 == 60) = false := by
      rw [beq_eq_false_iff_ne]
      omega
    simp only [hsecond, Bool.false_eq_true, if_false, mk.injEq]
    omega
  · -- A leap second is written as the sixtieth.
    have hsecond : (s % 60 + nanos / 1000000000 == 60) = true := by
      rw [beq_iff_eq]
      omega
    simp only [hsecond, if_true, mk.injEq]
    omega

/-- A timestamp is read back as it was written. -/
theorem parse_toText {t : Timestamp} (h : t.Valid) : parse t.toText = some t := by
  obtain ⟨s, hs⟩ : ∃ s : Nat, (s : Int) = t.secondOfDay := ⟨t.secondOfDay.toNat, by rw [secondOfDay]; omega⟩
  have hday : s < 86400 := by
    rw [secondOfDay] at hs
    omega
  have hnanos : t.nanoseconds < 2000000000 := by
    have := h.nanoseconds
    omega
  have hleap : 1000000000 ≤ t.nanoseconds → s % 60 = 59 := by
    intro hle
    have := h.nanoseconds
    rw [secondOfDay] at hs
    omega
  have hread := parseChars_parts h.date (s / 3600) (s / 60 % 60) (s % 60 + t.nanoseconds / 1000000000)
    (t.nanoseconds % 1000000000) (by omega) (by omega) (by omega) (by omega)
  have hclock : t.secondOfDay.toNat = s := by omega
  rw [parse, toText, String.toList_ofList, clockChars]
  simp only [hclock]
  rw [hread]
  simp only [parts_eq h hs, h.date, if_true]

/-- A timestamp without a fraction of a second is read back from its whole seconds. -/
theorem parse_toSecondsText {t : Timestamp} (h : t.Valid) (hwhole : t.nanoseconds % 1000000000 = 0) :
    parse t.toSecondsText = some t := by
  have htext : t.toSecondsText = t.toText := by
    rw [toSecondsText, toText, hwhole]
    simp [fractionChars]
  rw [htext, parse_toText h]

/-! ### What is left of a text -/

private theorem trimStart_suffix (cs : List Char) : trimStart cs <:+ cs := List.dropWhile_suffix _

private theorem digits?_suffix {width n : Nat} {cs rest : List Char} (h : digits? width cs = some (n, rest)) :
    rest <:+ cs := by
  rw [digits?] at h
  split at h
  · cases h
  · cases h
    exact List.drop_suffix _ _

private theorem part?_suffix {least greatest n : Nat} {cs rest : List Char}
    (h : part? least greatest cs = some (n, rest)) : rest <:+ cs := by
  rw [part?, Option.bind_eq_bind, Option.bind_eq_some_iff] at h
  obtain ⟨⟨m, r⟩, hr, h⟩ := h
  rw [Option.ite_none_right_eq_some] at h
  cases h.2
  exact (digits?_suffix hr).trans (trimStart_suffix cs)

private theorem mark?_suffix {c : Char} {cs rest : List Char} (h : mark? c cs = some rest) : rest <:+ cs := by
  have htrim := trimStart_suffix cs
  rw [mark?] at h
  split at h
  · rename_i c' r hr
    rw [Option.ite_none_right_eq_some] at h
    cases h.2
    rw [hr] at htrim
    exact (List.suffix_cons c' rest).trans htrim
  · cases h

private theorem year?_suffix {year : Int} {cs rest : List Char} (h : year? cs = some (year, rest)) : rest <:+ cs := by
  have htrim := trimStart_suffix cs
  rw [year?] at h
  split at h
  case h_1 r hr | h_2 r hr =>
    obtain ⟨⟨n, rest'⟩, hn, he⟩ := Option.map_eq_some_iff.mp h
    cases he
    rw [hr] at htrim
    exact (digits?_suffix hn).trans ((List.suffix_cons _ r).trans htrim)
  case h_3 =>
    obtain ⟨⟨n, rest'⟩, hn, he⟩ := Option.map_eq_some_iff.mp h
    cases he
    exact (digits?_suffix hn).trans htrim

/-! ### Timestamps that were read -/

private theorem foldl_digits_lt {ds : List Char} (hds : ∀ c ∈ ds, isDigit c = true) (n : Nat) :
    ds.foldl (fun n c => n * 10 + (c.toNat - '0'.toNat)) n < (n + 1) * 10 ^ ds.length := by
  induction ds generalizing n with
  | nil => simp
  | cons c ds ih =>
    have hc := isDigit_iff.mp (hds c (by simp))
    have hzero : '0'.toNat = 48 := rfl
    calc ds.foldl (fun n c => n * 10 + (c.toNat - '0'.toNat)) (n * 10 + (c.toNat - '0'.toNat))
        < (n * 10 + (c.toNat - '0'.toNat) + 1) * 10 ^ ds.length := ih (fun x hx => hds x (by simp [hx])) _
      _ ≤ ((n + 1) * 10) * 10 ^ ds.length := Nat.mul_le_mul_right _ (by omega)
      _ = (n + 1) * 10 ^ (c :: ds).length := by rw [List.length_cons, Nat.pow_succ, Nat.mul_assoc, Nat.mul_comm 10]

theorem ofDigits_lt {ds : List Char} (hds : ∀ c ∈ ds, isDigit c = true) : ofDigits ds < 10 ^ ds.length := by
  simpa [ofDigits] using foldl_digits_lt hds 0

private theorem fraction?_lt {cs rest : List Char} {nanos : Nat} (h : fraction? cs = some (nanos, rest)) :
    nanos < 1000000000 := by
  rw [fraction?.eq_def] at h
  split at h
  · rename_i ds
    dsimp only at h
    split at h
    · cases h
    · obtain ⟨kept, hkept⟩ : ∃ kept, kept = (ds.takeWhile isDigit).take 9 := ⟨_, rfl⟩
      have hdigits : ∀ c ∈ kept, isDigit c = true := by
        intro c hc
        rw [hkept] at hc
        exact List.all_eq_true.mp List.all_takeWhile c (List.mem_of_mem_take hc)
      have hlen : kept.length ≤ 9 := by
        rw [hkept, List.length_take]
        omega
      have hlt := ofDigits_lt hdigits
      rw [← hkept] at h
      cases h
      calc ofDigits kept * tenPow (9 - kept.length)
          < 10 ^ kept.length * 10 ^ (9 - kept.length) := Nat.mul_lt_mul_of_pos_right hlt (Nat.pow_pos (by decide))
        _ = 10 ^ 9 := by rw [← Nat.pow_add, Nat.add_sub_cancel' hlen]
  · cases h
    decide

/-- Without a point there is no fraction. -/
private theorem fraction?_of_no_point {cs rest : List Char} {nanos : Nat} (hpoint : '.' ∉ cs)
    (h : fraction? cs = some (nanos, rest)) : nanos = 0 := by
  rw [fraction?.eq_def] at h
  split at h
  · simp at hpoint
  · cases h
    rfl

/-- An offset is a number of whole minutes. -/
private theorem offset?_minutes {cs rest : List Char} {offset : Int} (h : offset? cs = some (offset, rest)) :
    offset % 60 = 0 := by
  rw [offset?.eq_def] at h
  simp only [Option.bind_eq_bind, if_true, Bool.false_eq_true, if_false] at h
  split at h
  case h_1 | h_2 =>
    cases h
    rfl
  case h_3 | h_4 | h_5 =>
    obtain ⟨hours, -, h⟩ := Option.bind_eq_some_iff.mp h
    obtain ⟨minutes, -, h⟩ := Option.bind_eq_some_iff.mp h
    cases h
    omega
  case h_6 =>
    rw [Option.ite_none_right_eq_some] at h
    cases h.2
    rfl
  case h_7 => cases h

/-- What a timestamp was read from: its fraction and its offset stand at the end of the text. -/
theorem of_parseChars {cs : List Char} {t : Timestamp} (h : parseChars cs = some t) :
    ∃ (days : Int) (hour minute second nanos : Nat) (offset : Int) (r r' r'' : List Char),
      r <:+ cs ∧ fraction? r = some (nanos, r') ∧ offset? (trimStart r') = some (offset, r'') ∧
      t.date.isValid = true ∧
      t = ⟨days * 86400 + (hour * 3600 + minute * 60 + (if second == 60 then 59 else second : Nat)) - offset,
        if second == 60 then nanos + 1000000000 else nanos⟩ := by
  rw [parseChars] at h
  dsimp only [Option.bind_eq_bind] at h
  obtain ⟨⟨year, r0⟩, h0, h⟩ := Option.bind_eq_some_iff.mp h
  obtain ⟨r1, h1, h⟩ := Option.bind_eq_some_iff.mp h
  obtain ⟨⟨month, r2⟩, h2, h⟩ := Option.bind_eq_some_iff.mp h
  obtain ⟨r3, h3, h⟩ := Option.bind_eq_some_iff.mp h
  obtain ⟨⟨day, r4⟩, h4, h⟩ := Option.bind_eq_some_iff.mp h
  have hday : r4 <:+ cs := (part?_suffix h4).trans ((mark?_suffix h3).trans
    ((part?_suffix h2).trans ((mark?_suffix h1).trans (year?_suffix h0))))
  dsimp only at h
  cases r4 with
  | nil => cases h
  | cons c r5 =>
    dsimp only at h
    by_cases hmark : c = 'T' ∨ c = 't' ∨ c = ' '
    · rw [if_pos hmark, Option.bind_some] at h
      obtain ⟨⟨hour, r6⟩, h6, h⟩ := Option.bind_eq_some_iff.mp h
      obtain ⟨r7, h7, h⟩ := Option.bind_eq_some_iff.mp h
      obtain ⟨⟨minute, r8⟩, h8, h⟩ := Option.bind_eq_some_iff.mp h
      obtain ⟨r9, h9, h⟩ := Option.bind_eq_some_iff.mp h
      obtain ⟨⟨second, r10⟩, h10, h⟩ := Option.bind_eq_some_iff.mp h
      have hsecond : r10 <:+ r5 := (part?_suffix h10).trans ((mark?_suffix h9).trans
        ((part?_suffix h8).trans ((mark?_suffix h7).trans (part?_suffix h6))))
      obtain ⟨⟨nanos, r11⟩, h11, h⟩ := Option.bind_eq_some_iff.mp h
      obtain ⟨⟨offset, r12⟩, h12, h⟩ := Option.bind_eq_some_iff.mp h
      rw [Option.ite_none_right_eq_some, Option.ite_none_right_eq_some] at h
      obtain ⟨-, hvalid, h⟩ := h
      cases h
      exact ⟨_, hour, minute, second, nanos, offset, r10, r11, r12, hsecond.trans ((List.suffix_cons c r5).trans hday),
        h11, h12, hvalid, rfl⟩
    · rw [if_neg hmark] at h
      cases h

/-- A timestamp that was read can be written. -/
theorem valid_of_parse {text : String} {t : Timestamp} (h : parse text = some t) : t.Valid := by
  obtain ⟨days, hour, minute, second, nanos, offset, r, r', r'', -, hn, ho, hdate, rfl⟩ := of_parseChars h
  have hlt := fraction?_lt hn
  have hminutes := offset?_minutes ho
  refine ⟨hdate, ?_⟩
  by_cases hleap : second = 60
  · simp only [hleap, beq_self_eq_true, if_true]
    omega
  · have hb : (second == 60) = false := beq_eq_false_iff_ne.mpr hleap
    simp only [hb, Bool.false_eq_true, if_false]
    exact .inl hlt

private theorem whole_of_parse {text : String} {t : Timestamp} (hpoint : '.' ∉ text.toList) (h : parse text = some t) :
    t.nanoseconds % 1000000000 = 0 := by
  obtain ⟨days, hour, minute, second, nanos, offset, r, r', r'', hr, hn, -, -, rfl⟩ := of_parseChars h
  have hzero : nanos = 0 := fraction?_of_no_point (fun hmem => hpoint (hr.subset hmem)) hn
  subst hzero
  dsimp only
  split <;> rfl

private theorem not_mem_padded {c : Char} (hc : isDigit c = false) (width n : Nat) : c ∉ padded width n := by
  intro hmem
  rw [isDigit_of_mem_padded hmem] at hc
  cases hc

/-- Whole seconds are written without a point. -/
private theorem no_point_toSecondsText (t : Timestamp) : '.' ∉ t.toSecondsText.toList := by
  have hdigits := fun width n => not_mem_padded (c := '.') (by decide) width n
  have hyear : '.' ∉ yearChars t.date.year := by
    rw [yearChars]
    split
    · exact hdigits _ _
    · split <;> simp [hdigits]
  simp [toSecondsText, clockChars, hdigits, hyear]

/-- A timestamp that was read is read back from its text. -/
theorem reread_text {text : String} {t : Timestamp} (h : parse text = some t) : parse t.toText = some t :=
  parse_toText (valid_of_parse h)

/-- A timestamp that was read from whole seconds is read back from its whole seconds. -/
theorem reread_seconds {t t' : Timestamp} (h : parse t.toSecondsText = some t') : parse t'.toSecondsText = some t' :=
  parse_toSecondsText (valid_of_parse h) (whole_of_parse t.no_point_toSecondsText h)

end Timestamp

end AppGateway
