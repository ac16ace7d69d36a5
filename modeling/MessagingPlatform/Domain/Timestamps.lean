import MessagingPlatform.Core.Decimal
import MessagingPlatform.Domain.Instants

/-!
# The texts of timestamps

In the years 0000 to 9999 an RFC 3339 text in UTC has twenty characters, and
different seconds have different texts: every field has a fixed width, and the
date determines the day.
-/

namespace MessagingPlatform.Timestamps

open Decimal
open Instants

section Calendar

/-- The day within a 400-year era. -/
def dayOfEra (day : ℤ) : ℤ := (day + 719468) % 146097

/-- The year within its era, counted from March. -/
def yearOfEra (dayOfEra : ℤ) : ℤ :=
  (dayOfEra - dayOfEra / 1460 + dayOfEra / 36524 - dayOfEra / 146096) / 365

/-- The day within its year, counted from 1 March. -/
def dayOfYear (dayOfEra : ℤ) : ℤ :=
  dayOfEra - (365 * yearOfEra dayOfEra + yearOfEra dayOfEra / 4 -
    yearOfEra dayOfEra / 100)

def monthOfDay (dayOfYear : ℤ) : ℤ := (5 * dayOfYear + 2) / 153

variable {day : ℤ}

theorem civilFromDays_eq (day : ℤ) :
    civilFromDays day =
      let ofYear := dayOfYear (dayOfEra day)
      let month := if monthOfDay ofYear < 10 then monthOfDay ofYear + 3
        else monthOfDay ofYear - 9
      let year := yearOfEra (dayOfEra day) + (day + 719468) / 146097 * 400
      (if month ≤ 2 then year + 1 else year, month,
        ofYear - (153 * monthOfDay ofYear + 2) / 5 + 1) := by
  have hera : dayOfEra day =
      day + 719468 - (day + 719468) / 146097 * 146097 := by
    rw [dayOfEra]
    omega
  rw [hera]
  rfl

theorem dayOfEra_bounds (day : ℤ) :
    0 ≤ dayOfEra day ∧ dayOfEra day < 146097 := by
  rw [dayOfEra]
  omega

theorem yearOfEra_bounds {dayOfEra : ℤ} (hnonneg : 0 ≤ dayOfEra)
    (hlt : dayOfEra < 146097) :
    0 ≤ yearOfEra dayOfEra ∧ yearOfEra dayOfEra ≤ 399 := by
  rw [yearOfEra]
  omega

/-- The leap days of a year are counted century by century. -/
theorem dayOfYear_bounds {dayOfEra : ℤ} (hnonneg : 0 ≤ dayOfEra)
    (hlt : dayOfEra < 146097) :
    0 ≤ dayOfYear dayOfEra ∧ dayOfYear dayOfEra ≤ 365 := by
  have hyear : yearOfEra dayOfEra = (dayOfEra - dayOfEra / 1460 +
    dayOfEra / 36524 - dayOfEra / 146096) / 365 := rfl
  rw [dayOfYear]
  generalize yearOfEra dayOfEra = year at hyear
  obtain ⟨century, hcentury⟩ : ∃ century, century = dayOfEra / 36524 :=
    ⟨_, rfl⟩
  have hcases : century = 0 ∨ century = 1 ∨ century = 2 ∨ century = 3 ∨
      century = 4 := by omega
  rcases hcases with rfl | rfl | rfl | rfl | rfl
  · have hcycle : dayOfEra / 146096 = 0 := by omega
    have hyearCentury : year / 100 = 0 := by omega
    omega
  · have hcycle : dayOfEra / 146096 = 0 := by omega
    have hyearCentury : year / 100 = 1 := by omega
    omega
  · have hcycle : dayOfEra / 146096 = 0 := by omega
    have hyearCentury : year / 100 = 2 := by omega
    omega
  · have hcycle : dayOfEra / 146096 = 0 := by omega
    have hyearCentury : year / 100 = 3 := by omega
    omega
  · have hlast : dayOfEra = 146096 := by omega
    omega

/-- A date has a month and a day of two digits. -/
theorem civilFromDays_bounds (day : ℤ) :
    (1 ≤ (civilFromDays day).2.1 ∧ (civilFromDays day).2.1 ≤ 12) ∧
      1 ≤ (civilFromDays day).2.2 ∧ (civilFromDays day).2.2 ≤ 31 := by
  obtain ⟨hnonneg, hlt⟩ := dayOfEra_bounds day
  have hofYear := dayOfYear_bounds hnonneg hlt
  rw [civilFromDays_eq]
  generalize dayOfYear (dayOfEra day) = ofYear at hofYear
  simp only [monthOfDay]
  split_ifs <;> omega

/-- The date determines the day. -/
theorem civilFromDays_injective : Function.Injective civilFromDays := by
  intro left right heq
  have hleftEra := dayOfEra_bounds left
  have hrightEra := dayOfEra_bounds right
  have hleftYear := yearOfEra_bounds hleftEra.1 hleftEra.2
  have hrightYear := yearOfEra_bounds hrightEra.1 hrightEra.2
  have hleftDay := dayOfYear_bounds hleftEra.1 hleftEra.2
  have hrightDay := dayOfYear_bounds hrightEra.1 hrightEra.2
  rw [civilFromDays_eq, civilFromDays_eq] at heq
  simp only [Prod.mk.injEq] at heq
  obtain ⟨hyear, hmonth, hday⟩ := heq
  have hsameMonth : monthOfDay (dayOfYear (dayOfEra left)) =
      monthOfDay (dayOfYear (dayOfEra right)) := by
    unfold monthOfDay at hmonth ⊢
    split_ifs at hmonth <;> omega
  have hsameDay : dayOfYear (dayOfEra left) = dayOfYear (dayOfEra right) := by
    rw [hsameMonth] at hday
    omega
  rw [hsameDay] at hyear
  have hsameYear : yearOfEra (dayOfEra left) = yearOfEra (dayOfEra right) ∧
      (left + 719468) / 146097 = (right + 719468) / 146097 := by
    split_ifs at hyear <;> omega
  have hsameEra : dayOfEra left = dayOfEra right := by
    unfold dayOfYear at hsameDay
    rw [hsameYear.1] at hsameDay
    omega
  rw [dayOfEra, dayOfEra] at hsameEra
  omega

end Calendar

section Fields

theorem toList_zeroPadded (width value : ℕ) :
    (zeroPadded width value).toList = padded width value := by
  rw [zeroPadded, String.toList_append, String.toList_ofList,
    Nat.repr_eq_ofList_toDigits, String.toList_ofList, String.length_ofList]
  rfl

theorem length_zeroPadded {width value : ℕ} (hwidth : 0 < width)
    (hvalue : value < 10 ^ width) :
    (zeroPadded width value).length = width := by
  rw [← String.length_toList, toList_zeroPadded, length_padded hwidth hvalue]

theorem ofDigitChars_zeroPadded (width value : ℕ) :
    Nat.ofDigitChars 10 (zeroPadded width value).toList 0 = value := by
  rw [toList_zeroPadded, ofDigitChars_padded]

theorem zeroPadded_injective (width : ℕ) :
    Function.Injective (zeroPadded width) := by
  intro left right heq
  rw [← ofDigitChars_zeroPadded width left, heq, ofDigitChars_zeroPadded]

theorem append_cancel_right {left right ending : String}
    (heq : left ++ ending = right ++ ending) : left = right := by
  have hlists := congrArg String.toList heq
  rw [String.toList_append, String.toList_append] at hlists
  exact String.toList_inj.mp (List.append_cancel_right hlists)

/-- A fixed-width field at the end of a text can be told from the rest. -/
theorem append_field_inj {left right leftField rightField : String}
    (heq : left ++ leftField = right ++ rightField)
    (hlength : leftField.length = rightField.length) :
    left = right ∧ leftField = rightField := by
  have hlists := congrArg String.toList heq
  rw [String.toList_append, String.toList_append] at hlists
  rw [← String.length_toList, ← String.length_toList] at hlength
  obtain ⟨hrest, hfield⟩ := List.append_inj' hlists hlength
  exact ⟨String.toList_inj.mp hrest, String.toList_inj.mp hfield⟩

end Fields

section Texts

/-- The year of a second. -/
def yearOf (unixSecond : ℤ) : ℤ := (civilFromDays (unixSecond / 86400)).1

/-- The second lies in the years 0000 to 9999. -/
def FourDigitYear (unixSecond : ℤ) : Prop :=
  0 ≤ yearOf unixSecond ∧ yearOf unixSecond ≤ 9999

instance (unixSecond : ℤ) : Decidable (FourDigitYear unixSecond) :=
  inferInstanceAs (Decidable (_ ∧ _))

/-- A field of two digits. -/
def twoDigits (value : ℤ) : String := zeroPadded 2 value.natAbs

theorem length_twoDigits {value : ℤ} (hnonneg : 0 ≤ value)
    (hlt : value < 100) : (twoDigits value).length = 2 :=
  length_zeroPadded (by decide) (by omega)

/-- A field of two digits behind a separator is read back with the text
before it. -/
theorem append_twoDigits_inj {textLeft textRight separator : String}
    {left right : ℤ}
    (heq : textLeft ++ separator ++ twoDigits left =
      textRight ++ separator ++ twoDigits right)
    (hleft : 0 ≤ left ∧ left < 100) (hright : 0 ≤ right ∧ right < 100) :
    textLeft = textRight ∧ left = right := by
  have hlength : (twoDigits left).length = (twoDigits right).length := by
    rw [length_twoDigits hleft.1 hleft.2, length_twoDigits hright.1 hright.2]
  obtain ⟨htext, hfield⟩ := append_field_inj heq hlength
  have hnat := zeroPadded_injective 2 hfield
  exact ⟨append_cancel_right htext, by omega⟩

theorem yearText_eq {year : ℤ} (hnonneg : 0 ≤ year) :
    yearText year = zeroPadded 4 year.natAbs := by
  rw [yearText, if_neg (not_lt.mpr hnonneg)]

theorem render_eq (unixSecond : ℤ) :
    (TimeText.rfc3339 unixSecond).render =
      yearText (yearOf unixSecond) ++ "-" ++
        twoDigits (civilFromDays (unixSecond / 86400)).2.1 ++ "-" ++
        twoDigits (civilFromDays (unixSecond / 86400)).2.2 ++ "T" ++
        twoDigits (unixSecond % 86400 / 3600) ++ ":" ++
        twoDigits (unixSecond % 86400 / 60 % 60) ++ ":" ++
        twoDigits (unixSecond % 86400 % 60) ++ "Z" := rfl

variable {unixSecond left right : ℤ}

theorem length_render (hyear : FourDigitYear unixSecond) :
    (TimeText.rfc3339 unixSecond).render.length = 20 := by
  have hdate := civilFromDays_bounds (unixSecond / 86400)
  have hyearText : (yearText (yearOf unixSecond)).length = 4 := by
    rw [yearText_eq hyear.1]
    obtain ⟨hnonneg, hle⟩ := hyear
    exact length_zeroPadded (by decide) (by omega)
  rw [render_eq]
  simp only [String.length_append, hyearText]
  rw [length_twoDigits (by omega) (by omega),
    length_twoDigits (by omega) (by omega),
    length_twoDigits (by omega) (by omega),
    length_twoDigits (by omega) (by omega),
    length_twoDigits (by omega) (by omega)]
  rfl

/-- Different seconds have different texts. -/
theorem render_injective (hleft : FourDigitYear left)
    (hright : FourDigitYear right)
    (heq : (TimeText.rfc3339 left).render = (TimeText.rfc3339 right).render) :
    left = right := by
  have hleftDate := civilFromDays_bounds (left / 86400)
  have hrightDate := civilFromDays_bounds (right / 86400)
  rw [render_eq, render_eq] at heq
  -- The fields are read from the right.
  obtain ⟨htext, hsecond⟩ :=
    append_twoDigits_inj (append_cancel_right heq) (by omega) (by omega)
  obtain ⟨htext, hminute⟩ := append_twoDigits_inj htext (by omega) (by omega)
  obtain ⟨htext, hhour⟩ := append_twoDigits_inj htext (by omega) (by omega)
  obtain ⟨htext, hday⟩ := append_twoDigits_inj htext (by omega) (by omega)
  obtain ⟨hyear, hmonth⟩ := append_twoDigits_inj htext (by omega) (by omega)
  have hsameYear : yearOf left = yearOf right := by
    rw [yearText_eq hleft.1, yearText_eq hright.1] at hyear
    have hnat := zeroPadded_injective 4 hyear
    obtain ⟨hleftYear, -⟩ := hleft
    obtain ⟨hrightYear, -⟩ := hright
    omega
  have hsameDay : left / 86400 = right / 86400 :=
    civilFromDays_injective (Prod.ext hsameYear (Prod.ext hmonth hday))
  omega

end Texts

end MessagingPlatform.Timestamps
