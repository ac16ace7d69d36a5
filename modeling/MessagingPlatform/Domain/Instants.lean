import Mathlib

/-!
# Instants, timestamp texts and the normative limits

The service reads one clock with nanosecond resolution and stores instants as
RFC 3339 texts, which carry whole seconds.  A stored text is represented by
the second it denotes; an attribute that an item does not carry unmarshals to
the empty text.  `render` is the text itself.

The limits are the compiled defaults of `internal/domain/constants.go` that
the authentication flows use.
-/

namespace MessagingPlatform.Instants

/-- Nanoseconds since the Unix epoch. -/
abbrev Time := ℤ

/-- A length of time in nanoseconds. -/
abbrev Duration := ℤ

def second : Duration := 1000000000
def minute : Duration := 60 * second
def hour : Duration := 60 * minute

/-- `int(d.Seconds())` for the whole-second durations of this module. -/
def wholeSeconds (duration : Duration) : ℕ := (duration / second).toNat

/-- `t.Unix()`. -/
def unix (instant : Time) : ℤ := instant / second

/-- A timestamp string of a stored item. -/
inductive TimeText where
  | empty
  | rfc3339 (unixSecond : ℤ)
  deriving DecidableEq, Repr

/-- `t.UTC().Format(time.RFC3339)`. -/
def format (instant : Time) : TimeText := .rfc3339 (instant / second)

/-- `time.Parse(time.RFC3339, text)`. -/
def parse : TimeText → Option Time
  | .empty => none
  | .rfc3339 unixSecond => some (unixSecond * second)

/-- The string order `left < right`.  For the years 0000 to 9999, whose texts
have one length, it is the order of the seconds denoted; the model is of runs
that stay within these years. -/
def TimeText.before : TimeText → TimeText → Bool
  | _, .empty => false
  | .empty, .rfc3339 _ => true
  | .rfc3339 left, .rfc3339 right => left < right

section Rendering

/-- Year, month and day of a day counted from 1970-01-01 in the proleptic
Gregorian calendar. -/
def civilFromDays (day : ℤ) : ℤ × ℤ × ℤ :=
  let shifted := day + 719468
  let era := shifted / 146097
  let dayOfEra := shifted - era * 146097
  let yearOfEra :=
    (dayOfEra - dayOfEra / 1460 + dayOfEra / 36524 - dayOfEra / 146096) / 365
  let dayOfYear :=
    dayOfEra - (365 * yearOfEra + yearOfEra / 4 - yearOfEra / 100)
  let shiftedMonth := (5 * dayOfYear + 2) / 153
  let month := if shiftedMonth < 10 then shiftedMonth + 3 else shiftedMonth - 9
  let year := yearOfEra + era * 400
  (if month ≤ 2 then year + 1 else year, month,
    dayOfYear - (153 * shiftedMonth + 2) / 5 + 1)

/-- A number in decimal, padded with zeros to at least `width` digits. -/
def zeroPadded (width : ℕ) (value : ℕ) : String :=
  let digits := Nat.repr value
  String.ofList (List.replicate (width - digits.length) '0') ++ digits

/-- A year of the layout: four digits at least, a sign before the year 0. -/
def yearText (year : ℤ) : String :=
  if year < 0 then "-" ++ zeroPadded 4 year.natAbs
  else zeroPadded 4 year.natAbs

/-- The characters of a timestamp text. -/
def TimeText.render : TimeText → String
  | .empty => ""
  | .rfc3339 unixSecond =>
      let date := civilFromDays (unixSecond / 86400)
      let ofDay := unixSecond % 86400
      yearText date.1 ++ "-" ++ zeroPadded 2 date.2.1.natAbs ++ "-" ++
        zeroPadded 2 date.2.2.natAbs ++ "T" ++
        zeroPadded 2 (ofDay / 3600).natAbs ++ ":" ++
        zeroPadded 2 (ofDay / 60 % 60).natAbs ++ ":" ++
        zeroPadded 2 (ofDay % 60).natAbs ++ "Z"

end Rendering

section Limits

def otpRequestRateLimitPerPhone : ℕ := 3
def otpRequestRateLimitPerIP : ℕ := 10
def otpRateLimitWindow : Duration := 15 * minute
def otpValidityDuration : Duration := 5 * minute
def maxOTPVerifyAttempts : ℕ := 5
def otpLockoutDuration : Duration := 15 * minute
def accessTokenLifetime : Duration := 1 * hour
def refreshTokenLifetime : Duration := 30 * 24 * hour
def maxSessionsPerUser : ℕ := 5

end Limits

end MessagingPlatform.Instants
