import AppGateway.Time.Calendar

/-!
# Days and dates

`Date.toDays_ofDays`: the date of a day is counted back to this day.  What has to be seen is that the day of the year
comes out within the year, wherever the day falls in its era of 400 years.
-/

namespace AppGateway

namespace Calendar

/-- The year of an era that `Date.ofDays` finds for a day of the era, and the day of that year. -/
private theorem year_of_era {dayOfEra yearOfEra : Int} (h0 : 0 ≤ dayOfEra) (h1 : dayOfEra < 146097)
    (hy : yearOfEra = (dayOfEra - dayOfEra / 1460 + dayOfEra / 36524 - dayOfEra / 146096) / 365) :
    (0 ≤ yearOfEra ∧ yearOfEra < 400) ∧
      0 ≤ dayOfEra - (365 * yearOfEra + yearOfEra / 4 - yearOfEra / 100) ∧
      dayOfEra - (365 * yearOfEra + yearOfEra / 4 - yearOfEra / 100) ≤ 365 := by
  have hyear : 0 ≤ yearOfEra ∧ yearOfEra < 400 := by omega
  -- Within a century leap years are regular, so the century of the day and that of the year are told apart.
  have hd : dayOfEra / 36524 = 0 ∨ dayOfEra / 36524 = 1 ∨ dayOfEra / 36524 = 2 ∨ dayOfEra / 36524 = 3 ∨
      dayOfEra / 36524 = 4 := by omega
  have hc : yearOfEra / 100 = 0 ∨ yearOfEra / 100 = 1 ∨ yearOfEra / 100 = 2 ∨ yearOfEra / 100 = 3 := by omega
  refine ⟨hyear, ?_⟩
  rcases hd with hd | hd | hd | hd | hd <;> rcases hc with hc | hc | hc | hc <;> omega

/-- The days up to a date that is given by its era, its year from March on and its month from March on. -/
private theorem toDays_from_march {era yearOfEra month day : Int} (hy0 : 0 ≤ yearOfEra) (hy1 : yearOfEra < 400)
    (hm0 : 0 ≤ month) (hm1 : month < 12) (hd : 0 ≤ day) :
    Date.toDays ⟨if (if month < 10 then month + 3 else month - 9) ≤ 2 then yearOfEra + era * 400 + 1
        else yearOfEra + era * 400, (if month < 10 then month + 3 else month - 9).toNat, day.toNat⟩ =
      era * 146097 + (yearOfEra * 365 + yearOfEra / 4 - yearOfEra / 100 + ((153 * month + 2) / 5 + day - 1))
        - 719468 := by
  have hera : (yearOfEra + era * 400) / 400 = era := by omega
  have hyear : yearOfEra + era * 400 - era * 400 = yearOfEra := by omega
  rw [Date.toDays]
  by_cases hm : month < 10
  · have hkept : ¬ (month + 3).toNat ≤ 2 := by omega
    have hkept' : ¬ month + 3 ≤ 2 := by omega
    have hmonth : ((month + 3).toNat : Int) - 3 = month := by omega
    simp only [hm, if_true, hkept, hkept', if_false, hera, hyear, hmonth]
    omega
  · -- January and February belong to the year that began in the March before.
    have hnext : (month - 9).toNat ≤ 2 := by omega
    have hnext' : month - 9 ≤ 2 := by omega
    have hmonth : ((month - 9).toNat : Int) + 9 = month := by omega
    have hyear' : yearOfEra + era * 400 + 1 - 1 = yearOfEra + era * 400 := by omega
    simp only [hm, if_false, hnext, hnext', if_true, hyear', hera, hyear, hmonth]
    omega

/-- The date of a day is counted back to this day. -/
theorem Date.toDays_ofDays (days : Int) : (Date.ofDays days).toDays = days := by
  obtain ⟨era, hera⟩ : ∃ era, era = (days + 719468) / 146097 := ⟨_, rfl⟩
  obtain ⟨dayOfEra, hdoe⟩ : ∃ dayOfEra, dayOfEra = days + 719468 - era * 146097 := ⟨_, rfl⟩
  obtain ⟨yearOfEra, hyoe⟩ : ∃ yearOfEra,
      yearOfEra = (dayOfEra - dayOfEra / 1460 + dayOfEra / 36524 - dayOfEra / 146096) / 365 := ⟨_, rfl⟩
  obtain ⟨dayOfYear, hdoy⟩ : ∃ dayOfYear,
      dayOfYear = dayOfEra - (365 * yearOfEra + yearOfEra / 4 - yearOfEra / 100) := ⟨_, rfl⟩
  obtain ⟨month, hmonth⟩ : ∃ month, month = (5 * dayOfYear + 2) / 153 := ⟨_, rfl⟩
  obtain ⟨⟨hy0, hy1⟩, hd0, hd1⟩ := year_of_era (by omega) (by omega) hyoe
  rw [← hdoy] at hd0 hd1
  have hofDays : Date.ofDays days =
      ⟨if (if month < 10 then month + 3 else month - 9) ≤ 2 then yearOfEra + era * 400 + 1 else yearOfEra + era * 400,
        (if month < 10 then month + 3 else month - 9).toNat, (dayOfYear - (153 * month + 2) / 5 + 1).toNat⟩ := by
    rw [hmonth, hdoy, hyoe, hdoe, hera]
    rfl
  rw [hofDays, toDays_from_march hy0 hy1 (by omega) (by omega) (by omega)]
  omega

end Calendar

end AppGateway
