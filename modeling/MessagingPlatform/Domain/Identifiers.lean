import MessagingPlatform.Domain.Errors

/-!
# Phone numbers and generated identifiers

The texts that identify users and sessions: E.164 phone numbers, which callers
supply, and UUIDs, which `uuid.NewString` generates in canonical form.
-/

namespace MessagingPlatform.Identifiers

open Errors

/-- The pattern `^\+[1-9]\d{6,14}$`. -/
def matchesE164 (raw : String) : Bool :=
  match raw.toList with
  | '+' :: lead :: rest =>
      ('1' ≤ lead && lead ≤ '9') && (6 ≤ rest.length && rest.length ≤ 14) &&
        rest.all Char.isDigit
  | _ => false

/-- `domain.NewPhoneNumber`, which the flows call for its error only. -/
def newPhoneNumber (raw : String) : Except GoError Unit :=
  if raw = "" then
    .error (.errorf "phone number cannot be empty: %w" []
      [.sentinel .errInvalidPhoneNumber])
  else if !matchesE164 raw then
    .error (.errorf "phone number %q is not valid E.164: %w" [raw]
      [.sentinel .errInvalidPhoneNumber])
  else .ok ()

theorem newPhoneNumber_of_matches {phone : String}
    (hphone : matchesE164 phone = true) :
    newPhoneNumber phone = .ok () := by
  have hne : phone ≠ "" := by
    rintro rfl
    cases hphone
  simp [newPhoneNumber, hne, hphone]

theorem matches_of_newPhoneNumber {phone : String}
    (hphone : newPhoneNumber phone = .ok ()) :
    matchesE164 phone = true := by
  unfold newPhoneNumber at hphone
  split_ifs at hphone with hempty hmatches
  simpa using hmatches

def isLowerHex (character : Char) : Bool :=
  character.isDigit || ('a' ≤ character && character ≤ 'f')

/-- The canonical form of a UUID: 36 characters, lower-case hexadecimal with
hyphens at the four fixed places. -/
def isUUIDText (text : String) : Bool :=
  text.toList.length == 36 &&
    text.toList.zipIdx.all fun place =>
      if place.2 == 8 || place.2 == 13 || place.2 == 18 || place.2 == 23 then
        place.1 == '-'
      else isLowerHex place.1

/-- The key of the item that reserves a phone number in the users table. -/
def phoneSentinelKey (phoneNumber : String) : String := "phone#" ++ phoneNumber

/-- Whether a key of the users table is a reservation. -/
def isPhoneSentinelKey (key : String) : Bool :=
  "phone#".toList.isPrefixOf key.toList

theorem isPhoneSentinelKey_phoneSentinelKey (phoneNumber : String) :
    isPhoneSentinelKey (phoneSentinelKey phoneNumber) = true := by
  simp [isPhoneSentinelKey, phoneSentinelKey]

theorem phoneSentinelKey_injective :
    Function.Injective phoneSentinelKey := by
  intro left right heq
  have hlists := congrArg String.toList heq
  simp only [phoneSentinelKey, String.toList_append] at hlists
  exact String.toList_inj.mp (List.append_cancel_left hlists)

/-- Generated identifiers are never reservations: a UUID starts with a
hexadecimal digit. -/
theorem not_isPhoneSentinelKey_of_isUUIDText {text : String}
    (huuid : isUUIDText text = true) : isPhoneSentinelKey text = false := by
  unfold isUUIDText at huuid
  unfold isPhoneSentinelKey
  cases hchars : text.toList with
  | nil => rfl
  | cons head tail =>
      rw [hchars] at huuid
      by_cases hhead : head = 'p'
      · subst head
        simp [isLowerHex] at huuid
      · have hne : ¬ 'p' = head := fun heq => hhead heq.symm
        simp [List.isPrefixOf, hne]

end MessagingPlatform.Identifiers
