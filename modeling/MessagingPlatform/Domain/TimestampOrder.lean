import MessagingPlatform.Domain.Calendar

/-!
# Timestamp texts and time

In the years 0000 to 9999 a timestamp consists of fields of fixed widths, so
the order of the texts is that of the dates and times they show.  `time.Parse`
reads back the second that was written.
-/

namespace MessagingPlatform.TimestampOrder

open Decimal
open Instants
open Timestamps
open Calendar

variable {unixSecond left right : ℤ}

section Order

/-- The layout `2006-01-02T15:04:05Z`. -/
def layout : List Field :=
  [⟨4, '-'⟩, ⟨2, '-'⟩, ⟨2, 'T'⟩, ⟨2, ':'⟩, ⟨2, ':'⟩, ⟨2, 'Z'⟩]

/-- Year, month, day, hour, minute and second. -/
def values (unixSecond : ℤ) : List ℕ :=
  let date := civilFromDays (unixSecond / 86400)
  let ofDay := unixSecond % 86400
  [date.1.natAbs, date.2.1.natAbs, date.2.2.natAbs, (ofDay / 3600).natAbs,
    (ofDay / 60 % 60).natAbs, (ofDay % 60).natAbs]

theorem toList_render (hyear : FourDigitYear unixSecond) :
    (TimeText.rfc3339 unixSecond).render.toList =
      fieldsText layout (values unixSecond) := by
  rw [render_eq, yearText_eq hyear.1]
  simp only [String.toList_append, twoDigits, toList_zeroPadded, layout, values,
    fieldsText, Field.text, yearOf, List.append_assoc, List.append_nil]
  rfl

theorem values_fit (hyear : FourDigitYear unixSecond) :
    List.Forall₂ Field.Fits layout (values unixSecond) := by
  obtain ⟨hmonth, hday⟩ := civilFromDays_bounds (unixSecond / 86400)
  obtain ⟨hfirst, hlast⟩ := hyear
  rw [yearOf] at hfirst hlast
  simp only [layout, values, List.forall₂_cons, List.forall₂_nil_left_iff,
    Field.Fits, and_true]
  refine ⟨?_, ?_, ?_, ?_, ?_, ?_⟩ <;> constructor <;> omega

/-- The first field that differs is larger in the later second. -/
theorem values_lt (hleft : FourDigitYear left) (hright : FourDigitYear right)
    (hlt : left < right) : values left < values right := by
  obtain ⟨hmonthLeft, hdayLeft⟩ := civilFromDays_bounds (left / 86400)
  obtain ⟨hmonthRight, hdayRight⟩ := civilFromDays_bounds (right / 86400)
  have hyearLeft := hleft.1
  have hyearRight := hright.1
  rw [yearOf] at hyearLeft hyearRight
  simp only [values, List.cons_lt_cons_iff, lt_self_iff_false, and_false,
    or_false]
  by_cases hday : left / 86400 < right / 86400
  · have hdate := civilFromDays_lt hday
    simp only [List.cons_lt_cons_iff, lt_self_iff_false, and_false,
      or_false] at hdate
    omega
  · have hsame : left / 86400 = right / 86400 := by omega
    rw [hsame]
    omega

theorem render_lt (hleft : FourDigitYear left) (hright : FourDigitYear right)
    (hlt : left < right) :
    (TimeText.rfc3339 left).render < (TimeText.rfc3339 right).render := by
  rw [String.lt_iff_toList_lt, toList_render hleft, toList_render hright]
  exact fieldsText_lt (values_fit hleft) (values_fit hright)
    (values_lt hleft hright hlt)

/-- The texts are in the order of the seconds. -/
theorem render_lt_iff (hleft : FourDigitYear left)
    (hright : FourDigitYear right) :
    (TimeText.rfc3339 left).render < (TimeText.rfc3339 right).render ↔
      left < right := by
  constructor
  · intro hless
    by_contra hnot
    rcases lt_or_eq_of_le (not_lt.mp hnot) with hgreater | rfl
    · exact (hless.trans (render_lt hright hleft hgreater)).false
    · exact hless.false
  · exact render_lt hleft hright

end Order

section Parsing

/-- `s[start:stop]`. -/
def slice (text : List Char) (start stop : ℕ) : List Char :=
  (text.take stop).drop start

/-- An unsigned decimal number within a range. -/
def parseUint (text : List Char) (min max : ℕ) : Option ℕ := do
  let value ← readDigits 0 text
  if min ≤ value ∧ value ≤ max then some value else none

/-- The nanoseconds of a fraction of a second: nine digits count. -/
def parseNanoseconds (digits : List Char) : ℕ :=
  let counted := digits.take 9
  Nat.ofDigitChars 10 counted 0 * 10 ^ (9 - counted.length)

/-- The fractional second, if there is one, and what follows it. -/
def parseFraction : List Char → ℕ × List Char
  | '.' :: rest =>
      let digits := rest.takeWhile Char.isDigit
      if digits = [] then (0, '.' :: rest)
      else (parseNanoseconds digits, rest.dropWhile Char.isDigit)
  | text => (0, text)

/-- The seconds that a zone is ahead of UTC. -/
def parseZone : List Char → Option ℤ
  | ['Z'] => some 0
  | [sign, hour₁, hour₂, ':', minute₁, minute₂] => do
      let hours ← parseUint [hour₁, hour₂] 0 23
      let minutes ← parseUint [minute₁, minute₂] 0 59
      let offset : ℤ := (hours * 60 + minutes) * 60
      if sign = '+' then some offset
      else if sign = '-' then some (-offset)
      else none
  | _ => none

/-- `parseRFC3339`, the first thing that `time.Parse` tries for this layout. -/
def parseRFC3339 (text : String) : Option Time := do
  let s := text.toList
  if s.length < 19 then none
  else
    let year ← parseUint (slice s 0 4) 0 9999
    let month ← parseUint (slice s 5 7) 1 12
    let day ← parseUint (slice s 8 10) 1 (daysIn month year).toNat
    let hour ← parseUint (slice s 11 13) 0 23
    let minute ← parseUint (slice s 14 16) 0 59
    let sec ← parseUint (slice s 17 19) 0 59
    if slice s 4 5 = ['-'] ∧ slice s 7 8 = ['-'] ∧ slice s 10 11 = ['T'] ∧
        slice s 13 14 = [':'] ∧ slice s 16 17 = [':'] then
      let (nsec, zone) := parseFraction (s.drop 19)
      let offset ← parseZone zone
      some ((dayOfDate year month day * 86400 + hour * 3600 + minute * 60 +
        sec - offset) * second + nsec)
    else none

/-- `time.Parse(time.RFC3339, text)`: the general parser is asked only about
texts that `parseRFC3339` does not read. -/
def timeParse (general : String → Option Time) (text : String) :
    Option Time :=
  (parseRFC3339 text).or (general text)

theorem parseUint_padded (width : ℕ) {value min max : ℕ}
    (hrange : min ≤ value ∧ value ≤ max) :
    parseUint (padded width value) min max = some value := by
  rw [parseUint, readDigits_padded]
  exact if_pos hrange

/-- Four digits, written and read. -/
theorem padded_four {value min max : ℕ} (hrange : min ≤ value ∧ value ≤ max)
    (hmax : max ≤ 9999) :
    ∃ a b c d, padded 4 value = [a, b, c, d] ∧
      parseUint [a, b, c, d] min max = some value := by
  have hlength := length_padded (by decide : 0 < 4)
    (show value < 10 ^ 4 by omega)
  have hread := parseUint_padded 4 hrange
  match padded 4 value, hlength, hread with
  | [a, b, c, d], _, hread => exact ⟨a, b, c, d, rfl, hread⟩

/-- Two digits, written and read. -/
theorem padded_two {value min max : ℕ} (hrange : min ≤ value ∧ value ≤ max)
    (hmax : max ≤ 99) :
    ∃ a b, padded 2 value = [a, b] ∧
      parseUint [a, b] min max = some value := by
  have hlength := length_padded (by decide : 0 < 2)
    (show value < 10 ^ 2 by omega)
  obtain ⟨a, b, hdigits⟩ := List.length_eq_two.mp hlength
  exact ⟨a, b, hdigits, hdigits ▸ parseUint_padded 2 hrange⟩

/-- A text whose fields show an existing date and time. -/
theorem parseRFC3339_fieldsText {year month day hour minute sec : ℕ}
    (hyear : year ≤ 9999) (hdate : ValidDate year month day)
    (hhour : hour ≤ 23) (hminute : minute ≤ 59) (hsec : sec ≤ 59) :
    parseRFC3339 (String.ofList
        (fieldsText layout [year, month, day, hour, minute, sec])) =
      some ((dayOfDate year month day * 86400 + hour * 3600 + minute * 60 +
        sec) * second) := by
  obtain ⟨hmonth, hday⟩ := hdate
  have hdays := daysIn_bounds year hmonth
  obtain ⟨y₁, y₂, y₃, y₄, hyears, hyearRead⟩ :=
    padded_four ⟨Nat.zero_le year, hyear⟩ (le_refl 9999)
  obtain ⟨m₁, m₂, hmonths, hmonthRead⟩ :=
    padded_two (show 1 ≤ month ∧ month ≤ 12 by omega) (by decide)
  obtain ⟨d₁, d₂, hdayDigits, hdayRead⟩ :=
    padded_two (show 1 ≤ day ∧ day ≤ (daysIn month year).toNat by omega)
      (by omega)
  obtain ⟨h₁, h₂, hhours, hhourRead⟩ :=
    padded_two ⟨Nat.zero_le hour, hhour⟩ (by decide)
  obtain ⟨n₁, n₂, hminutes, hminuteRead⟩ :=
    padded_two ⟨Nat.zero_le minute, hminute⟩ (by decide)
  obtain ⟨s₁, s₂, hsecs, hsecRead⟩ :=
    padded_two ⟨Nat.zero_le sec, hsec⟩ (by decide)
  -- With all digits named, the slices compute.
  simp only [parseRFC3339, String.toList_ofList, layout, fieldsText, Field.text,
    hyears, hmonths, hdayDigits, hhours, hminutes, hsecs, List.cons_append,
    List.nil_append]
  simp [slice, hyearRead, hmonthRead, hdayRead, hhourRead, hminuteRead,
    hsecRead, parseFraction, parseZone]

/-- Parsing a timestamp gives the second that it was written for. -/
theorem parseRFC3339_render (hyear : FourDigitYear unixSecond) :
    parseRFC3339 (TimeText.rfc3339 unixSecond).render =
      some (unixSecond * second) := by
  have hday := dayOfDate_civilFromDays (unixSecond / 86400)
  have hdate := validDate_civilFromDays (unixSecond / 86400)
  have htext := toList_render hyear
  obtain ⟨hfirst, hlast⟩ := hyear
  rw [yearOf] at hfirst hlast
  have hmonth := hdate.monthRange.1
  have hdayOfMonth := hdate.dayRange.1
  rw [← String.ofList_toList (s := (TimeText.rfc3339 unixSecond).render), htext]
  simp only [values]
  generalize (civilFromDays (unixSecond / 86400)).1 = year at *
  generalize (civilFromDays (unixSecond / 86400)).2.1 = month at *
  generalize (civilFromDays (unixSecond / 86400)).2.2 = day at *
  lift year to ℕ using hfirst
  lift month to ℕ using by omega
  lift day to ℕ using by omega
  simp only [Int.natAbs_natCast]
  rw [parseRFC3339_fieldsText (by omega) hdate (by omega) (by omega) (by omega),
    hday]
  have htime : unixSecond / 86400 * 86400 +
      ((unixSecond % 86400 / 3600).natAbs : ℤ) * 3600 +
      ((unixSecond % 86400 / 60 % 60).natAbs : ℤ) * 60 +
      ((unixSecond % 86400 % 60).natAbs : ℤ) = unixSecond := by omega
  rw [htime]

theorem timeParse_render (general : String → Option Time)
    (hyear : FourDigitYear unixSecond) :
    timeParse general (TimeText.rfc3339 unixSecond).render =
      parse (.rfc3339 unixSecond) := by
  rw [timeParse, parseRFC3339_render hyear]
  rfl

end Parsing

section Years

/-- Later seconds lie in the same year or a later one. -/
theorem yearOf_mono (hle : left ≤ right) : yearOf left ≤ yearOf right := by
  have hdays : left / 86400 ≤ right / 86400 :=
    Int.ediv_le_ediv (by decide) hle
  rcases lt_or_eq_of_le hdays with hless | hsame
  · have hdate := civilFromDays_lt hless
    rw [List.cons_lt_cons_iff] at hdate
    exact hdate.elim le_of_lt fun hequal => hequal.1.le
  · rw [yearOf, yearOf, hsame]

/-- The years 0000 to 9999 are one span of time. -/
theorem fourDigitYear_between {middle : ℤ} (hleft : FourDigitYear left)
    (hright : FourDigitYear right) (hfrom : left ≤ middle)
    (hto : middle ≤ right) : FourDigitYear middle :=
  ⟨hleft.1.trans (yearOf_mono hfrom), (yearOf_mono hto).trans hright.2⟩

end Years

section Stamps

/-- `x.UTC().Format(time.RFC3339)`. -/
def timestamp (instant : Time) : String := (format instant).render

/-- `x.Truncate(time.Second)`. -/
def truncated (instant : Time) : Time := instant / second * second

/-- The instant lies in the years 0000 to 9999. -/
def InYears (instant : Time) : Prop := FourDigitYear (instant / second)

instance (instant : Time) : Decidable (InYears instant) :=
  inferInstanceAs (Decidable (FourDigitYear _))

theorem truncated_lt_iff {left right : Time} :
    truncated left < truncated right ↔ left / second < right / second :=
  Int.mul_lt_mul_right (by decide)

theorem truncated_inj {left right : Time} :
    truncated left = truncated right ↔ left / second = right / second :=
  Int.mul_eq_mul_right_iff (by decide)

variable {left right : Time}

theorem timestamp_lt_iff (hleft : InYears left) (hright : InYears right) :
    timestamp left < timestamp right ↔ truncated left < truncated right := by
  rw [truncated_lt_iff]
  exact render_lt_iff hleft hright

theorem timestamp_inj (hleft : InYears left) (hright : InYears right) :
    timestamp left = timestamp right ↔ truncated left = truncated right := by
  rw [truncated_inj]
  constructor
  · exact render_injective hleft hright
  · intro hsame
    rw [timestamp, timestamp, format, format, hsame]

theorem length_timestamp {instant : Time} (hyears : InYears instant) :
    (timestamp instant).length = 20 :=
  length_render hyears

theorem timeParse_timestamp (general : String → Option Time) {instant : Time}
    (hyears : InYears instant) :
    timeParse general (timestamp instant) = some (truncated instant) :=
  timeParse_render general hyears

/-- The model's order of timestamp texts is the order of the texts. -/
theorem before_format (hleft : InYears left) (hright : InYears right) :
    (format left).before (format right) = true ↔
      timestamp left < timestamp right := by
  rw [timestamp_lt_iff hleft hright, truncated_lt_iff]
  exact decide_eq_true_iff

end Stamps

end MessagingPlatform.TimestampOrder
