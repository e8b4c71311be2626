import AppGateway.Proofs.Time.Reread
import AppGateway.Time.Span
import Mathlib.Tactic.SplitIfs

/-!
# Ages are cut off and never misstated

The text of an age is read back as numbers of units, and what they come to is compared with the age.

* (reading) `ageParts?_twoUnits`: what was written of two counts is read back from the text;
* (size) `shows_ageText`: an age is shown as the multiple of its grain at or below it;
* (order) `truncated_mono`: a greater age is not shown as a smaller one;
* `ageText_truncates`: all of this for the ages that are shown, with the texts of the ages below zero.
-/

namespace AppGateway

/-- A unit in which ages are shown. -/
inductive AgeUnit where
  | second
  | minute
  | hour
  | day
  | year
deriving DecidableEq, Repr

namespace AgeUnit

def seconds : AgeUnit → Nat
  | second => 1
  | minute => 60
  | hour => 60 * 60
  | day => 24 * (60 * 60)
  | year => 365 * (24 * (60 * 60))

def nanoseconds (u : AgeUnit) : Int := u.seconds * 1000000000

private theorem nanoseconds_pos (u : AgeUnit) : 0 < u.nanoseconds := by
  cases u <;> decide

def letter : AgeUnit → Char
  | second => 's'
  | minute => 'm'
  | hour => 'h'
  | day => 'd'
  | year => 'y'

def ofLetter? (c : Char) : Option AgeUnit := [second, minute, hour, day, year].find? (·.letter == c)

private theorem ofLetter?_letter (u : AgeUnit) : ofLetter? u.letter = some u := by
  cases u <;> rfl

private theorem isDigit_letter (u : AgeUnit) : Timestamp.isDigit u.letter = false := by
  cases u <;> rfl

def text : AgeUnit → String
  | second => "s"
  | minute => "m"
  | hour => "h"
  | day => "d"
  | year => "y"

private theorem toList_text (u : AgeUnit) : u.text.toList = [u.letter] := by
  cases u <;> rfl

end AgeUnit

namespace Span

open Timestamp (isDigit ofDigits ofDigits_eq)

/-! ### Reading an age back -/

/-- Reads numbers with the letter of a unit after each of them; `ds` are the digits of the number that is being
read. -/
def readParts (ds : List Char) : List Char → Option (List (Nat × AgeUnit))
  | [] => if ds.isEmpty then some [] else none
  | c :: cs =>
    if isDigit c then readParts (ds ++ [c]) cs
    else if ds.isEmpty then none
    else do
      let unit ← AgeUnit.ofLetter? c
      let parts ← readParts [] cs
      return (ofDigits ds, unit) :: parts

/-- The numbers of units that a text consists of. -/
def ageParts? (text : String) : Option (List (Nat × AgeUnit)) := readParts [] text.toList

/-- The nanoseconds that numbers of units come to. -/
def shown (parts : List (Nat × AgeUnit)) : Int := parts.foldr (fun p total => p.1 * p.2.nanoseconds + total) 0

private theorem readParts_digits {es : List Char} (hes : ∀ c ∈ es, isDigit c = true) (ds rest : List Char) :
    readParts ds (es ++ rest) = readParts (ds ++ es) rest := by
  induction es generalizing ds with
  | nil => simp
  | cons e es ih =>
    have he : isDigit e = true := hes e (by simp)
    have hrest : ∀ c ∈ es, isDigit c = true := fun c hc => hes c (by simp [hc])
    rw [List.cons_append, readParts, if_pos he, ih hrest]
    simp

private theorem readParts_number (n : Nat) (u : AgeUnit) (rest : List Char) :
    readParts [] ((toString n).toList ++ u.letter :: rest) = (readParts [] rest).map ((n, u) :: ·) := by
  have hdigits : (toString n).toList = Nat.toDigits 10 n := Nat.toList_repr
  have hall : ∀ c ∈ Nat.toDigits 10 n, isDigit c = true := by
    intro c hc
    have hc' : c.isDigit = true := Nat.isDigit_of_mem_toDigits (by decide) (by decide) hc
    simp only [Char.isDigit, Bool.and_eq_true, decide_eq_true_eq] at hc'
    exact Timestamp.isDigit_iff.mpr hc'
  have hne : (Nat.toDigits 10 n).isEmpty = false := by simp [Nat.toDigits_ne_nil]
  rw [hdigits, readParts_digits hall, List.nil_append, readParts, u.isDigit_letter, hne, u.ofLetter?_letter,
    ofDigits_eq, Nat.ofDigitChars_ten_toDigits]
  cases readParts [] rest <;> rfl

private theorem ageParts?_count (n : Nat) (u : AgeUnit) : ageParts? (toString (n : Int) ++ u.text) = some [(n, u)] := by
  have hchars : (toString (n : Int) ++ u.text).toList = (toString n).toList ++ u.letter :: [] := by
    simp only [String.toList_append, AgeUnit.toList_text]
    rfl
  rw [ageParts?, hchars, readParts_number]
  rfl

/-- The parts of a text of two counts, the second of which is left out when it is zero. -/
def twoParts (large : Nat) (u : AgeUnit) (small : Nat) (v : AgeUnit) : List (Nat × AgeUnit) :=
  if small = 0 then [(large, u)] else [(large, u), (small, v)]

theorem ageParts?_twoUnits (large small : Nat) (u v : AgeUnit) :
    ageParts? (twoUnits large u.text small v.text) = some (twoParts large u small v) := by
  unfold twoUnits twoParts
  by_cases hsmall : small = 0
  · rw [if_pos (by omega), if_pos hsmall, ageParts?_count]
  · have hchars : (toString (large : Int) ++ u.text ++ toString (small : Int) ++ v.text).toList =
        (toString large).toList ++ u.letter :: ((toString small).toList ++ v.letter :: []) := by
      simp only [String.toList_append, AgeUnit.toList_text, List.append_assoc, List.singleton_append]
      rfl
    rw [if_neg (by omega), if_neg hsmall, ageParts?, hchars, readParts_number, readParts_number]
    rfl

example : ageParts? "3m20s" = some [(3, .minute), (20, .second)] := by decide

/-! ### What is cut off -/

/-- The unit below which the text of an age says nothing. -/
def grain (s : Span) : AgeUnit :=
  if s.nanoseconds < 10 * AgeUnit.minute.nanoseconds then .second
  else if s.nanoseconds < 8 * AgeUnit.hour.nanoseconds then .minute
  else if s.nanoseconds < 8 * AgeUnit.day.nanoseconds then .hour
  else if s.nanoseconds < 8 * AgeUnit.year.nanoseconds then .day
  else .year

/-- The span without what is below its grain. -/
def truncated (s : Span) : Int := s.nanoseconds / s.grain.nanoseconds * s.grain.nanoseconds

private theorem truncated_le (s : Span) : s.truncated ≤ s.nanoseconds :=
  Int.ediv_mul_le _ (Int.ne_of_gt s.grain.nanoseconds_pos)

private theorem lt_truncated_add (s : Span) : s.nanoseconds < s.truncated + s.grain.nanoseconds := by
  have h := Int.lt_ediv_add_one_mul_self s.nanoseconds s.grain.nanoseconds_pos
  rwa [Int.add_mul, Int.one_mul] at h

/-- One count, or two of which the second is not zero and comes to less than the unit of the first. -/
def Fitting : List (Nat × AgeUnit) → Prop
  | [_] => True
  | [(_, u), (m, v)] => m ≠ 0 ∧ m * v.seconds < u.seconds
  | _ => False

/-- A text that shows a span: the parts of the text fit and come to the span without what is below its grain. -/
def Shows (text : String) (s : Span) : Prop :=
  ∃ parts, ageParts? text = some parts ∧ Fitting parts ∧ shown parts = s.truncated

private theorem shows_count {s : Span} (n : Nat) (u : AgeUnit) (h : n * u.nanoseconds = s.truncated) :
    Shows (toString (n : Int) ++ u.text) s :=
  ⟨[(n, u)], ageParts?_count n u, trivial, by simpa [shown] using h⟩

private theorem shows_twoUnits {s : Span} (large small : Nat) (u v : AgeUnit) (hfit : small * v.seconds < u.seconds)
    (h : large * u.nanoseconds + small * v.nanoseconds = s.truncated) :
    Shows (twoUnits large u.text small v.text) s := by
  refine ⟨_, ageParts?_twoUnits large small u v, ?_⟩
  unfold twoParts
  by_cases hsmall : small = 0
  · rw [if_pos hsmall]
    exact ⟨trivial, by simpa [shown, hsmall] using h⟩
  · rw [if_neg hsmall]
    exact ⟨⟨hsmall, hfit⟩, by simpa [shown] using h⟩

/-- What is left of a span, by its whole seconds. -/
theorem truncated_cases {s : Span} {t : Nat} (ht : s.nanoseconds / 1000000000 = t) :
    (t < 600 ∧ s.truncated = t * 1000000000) ∨
    (600 ≤ t ∧ t < 28800 ∧ s.truncated = t / 60 * 60 * 1000000000) ∨
    (28800 ≤ t ∧ t < 691200 ∧ s.truncated = t / 3600 * 3600 * 1000000000) ∨
    (691200 ≤ t ∧ t < 252288000 ∧ s.truncated = t / 86400 * 86400 * 1000000000) ∨
    (252288000 ≤ t ∧ s.truncated = t / 31536000 * 31536000 * 1000000000) := by
  unfold truncated grain
  split_ifs <;> simp only [AgeUnit.nanoseconds, AgeUnit.seconds] at * <;> omega

private theorem seconds_of_nonneg {s : Span} (h : 0 ≤ s.nanoseconds) : s.seconds = s.nanoseconds / 1000000000 :=
  Int.tdiv_eq_ediv_of_nonneg h

private theorem seconds_of_neg {s : Span} (h : s.nanoseconds < 0) : s.seconds = -(-s.nanoseconds / 1000000000) := by
  have hneg : s.nanoseconds = -(-s.nanoseconds) := by omega
  rw [seconds, hneg, Int.neg_tdiv, Int.tdiv_eq_ediv_of_nonneg (by omega)]
  omega

/-- A longer span is not shown as a shorter one. -/
theorem truncated_mono {s s' : Span} (h0 : 0 ≤ s.nanoseconds) (h : s.nanoseconds ≤ s'.nanoseconds) :
    s.truncated ≤ s'.truncated := by
  obtain ⟨t, ht⟩ := Int.eq_ofNat_of_zero_le (Int.ediv_nonneg h0 (by decide : (0 : Int) ≤ 1000000000))
  obtain ⟨t', ht'⟩ : ∃ t' : Nat, s'.nanoseconds / 1000000000 = t' :=
    Int.eq_ofNat_of_zero_le (Int.ediv_nonneg (by omega) (by decide))
  have hle : t ≤ t' := by omega
  -- Where the grain gets coarser, the lesser age ends below a multiple of the coarser grain.
  have hs := truncated_cases ht
  have hs' := truncated_cases ht'
  rcases hs with hs | hs | hs | hs | hs <;> omega

/-- An age is shown as the multiple of its grain at or below it, in one or two fitting parts. -/
theorem shows_ageText {s : Span} (h : 0 ≤ s.nanoseconds) : Shows s.ageText s := by
  obtain ⟨t, ht⟩ := Int.eq_ofNat_of_zero_le (Int.ediv_nonneg h (by decide : (0 : Int) ≤ 1000000000))
  have hcut := truncated_cases ht
  have hseconds : s.seconds = t := by rw [seconds_of_nonneg h, ht]
  have hminutes : s.minutes = ((t / 60 : Nat) : Int) := by
    rw [minutes, hseconds, Int.tdiv_eq_ediv_of_nonneg (by omega)]
    rfl
  have hhours : s.hours = ((t / 3600 : Nat) : Int) := by
    rw [hours, hseconds, Int.tdiv_eq_ediv_of_nonneg (by omega)]
    rfl
  unfold ageText
  rw [hseconds, hminutes, hhours, if_neg (by omega), if_neg (by omega)]
  -- One case for each range of ages, from the shortest to the longest; `hcut` has the grain of the range.
  split_ifs
  · refine shows_count t .second ?_
    simp only [AgeUnit.nanoseconds, AgeUnit.seconds]
    omega
  · refine shows_twoUnits (t / 60) (t % 60) .minute .second ?_ ?_
    · simp only [AgeUnit.seconds]
      omega
    · simp only [AgeUnit.nanoseconds, AgeUnit.seconds]
      omega
  · refine shows_count (t / 60) .minute ?_
    simp only [AgeUnit.nanoseconds, AgeUnit.seconds]
    omega
  · refine shows_twoUnits (t / 3600) (t / 60 % 60) .hour .minute ?_ ?_
    · simp only [AgeUnit.seconds]
      omega
    · simp only [AgeUnit.nanoseconds, AgeUnit.seconds]
      omega
  · refine shows_count (t / 3600) .hour ?_
    simp only [AgeUnit.nanoseconds, AgeUnit.seconds]
    omega
  · refine shows_twoUnits (t / 3600 / 24) (t / 3600 % 24) .day .hour ?_ ?_
    · simp only [AgeUnit.seconds]
      omega
    · simp only [AgeUnit.nanoseconds, AgeUnit.seconds]
      omega
  · refine shows_count (t / 3600 / 24) .day ?_
    simp only [AgeUnit.nanoseconds, AgeUnit.seconds]
    omega
  · refine shows_twoUnits (t / 3600 / 24 / 365) (t / 3600 / 24 % 365) .year .day ?_ ?_
    · simp only [AgeUnit.seconds]
      omega
    · simp only [AgeUnit.nanoseconds, AgeUnit.seconds]
      omega
  · refine shows_count (t / 3600 / 24 / 365) .year ?_
    simp only [AgeUnit.nanoseconds, AgeUnit.seconds]
    omega

/-- The text of a span below zero: none from two seconds on, and zero until then. -/
private theorem ageText_of_neg {s : Span} (h : s.nanoseconds < 0) :
    s.ageText = if s.nanoseconds ≤ -2000000000 then "<invalid>" else "0s" := by
  have hseconds := seconds_of_neg h
  unfold ageText
  by_cases hinvalid : s.nanoseconds ≤ -2000000000
  · rw [if_pos hinvalid, if_pos (by omega)]
  · rw [if_neg hinvalid, if_neg (by omega)]
    by_cases hskew : s.seconds < 0
    · rw [if_pos hskew]
    · have hzero : s.seconds = 0 := by omega
      rw [hzero]
      rfl

/-- A span shows as no age exactly from two seconds below zero on, and as zero between them and zero.  From zero on,
what the text says is at most the span and falls short of it by less than the grain: a second up to ten minutes, a
minute up to eight hours, an hour up to eight days, a day up to eight years, a year from there.  A second part is not
zero and less than the unit of the first, and a longer span is not shown as a shorter one. -/
theorem ageText_truncates (s : Span) :
    (s.ageText = "<invalid>" ↔ s.nanoseconds ≤ -2 * AgeUnit.second.nanoseconds) ∧
    (-2 * AgeUnit.second.nanoseconds < s.nanoseconds ∧ s.nanoseconds < 0 → s.ageText = "0s") ∧
    (0 ≤ s.nanoseconds → ∃ parts, ageParts? s.ageText = some parts ∧ Fitting parts ∧
      shown parts ≤ s.nanoseconds ∧ s.nanoseconds < shown parts + s.grain.nanoseconds ∧
      ∀ s' : Span, s.nanoseconds ≤ s'.nanoseconds →
        ∃ parts', ageParts? s'.ageText = some parts' ∧ shown parts ≤ shown parts') := by
  have htwo : -2 * AgeUnit.second.nanoseconds = -2000000000 := rfl
  rw [htwo]
  refine ⟨⟨?_, ?_⟩, ?_, ?_⟩
  · intro htext
    by_cases hneg : s.nanoseconds < 0
    · rw [ageText_of_neg hneg] at htext
      by_cases hearly : s.nanoseconds ≤ -2000000000
      · exact hearly
      · rw [if_neg hearly] at htext
        exact absurd htext (by decide)
    · -- What shows an age is read back, and the text for no age is not.
      obtain ⟨parts, hparts, -⟩ := shows_ageText (s := s) (by omega)
      have hnone : ageParts? "<invalid>" = none := by decide
      rw [htext, hnone] at hparts
      cases hparts
  · intro hearly
    rw [ageText_of_neg (by omega), if_pos hearly]
  · rintro ⟨hlate, hneg⟩
    rw [ageText_of_neg hneg, if_neg (by omega)]
  · intro h
    obtain ⟨parts, hparts, hfit, hshown⟩ := shows_ageText h
    refine ⟨parts, hparts, hfit, ?_⟩
    rw [hshown]
    refine ⟨s.truncated_le, s.lt_truncated_add, fun s' hle => ?_⟩
    obtain ⟨parts', hparts', -, hshown'⟩ := shows_ageText (s := s') (by omega)
    refine ⟨parts', hparts', ?_⟩
    rw [hshown']
    exact truncated_mono h hle

end Span

end AppGateway
