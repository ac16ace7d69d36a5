import MessagingPlatform.Domain.Errors

/-!
# Identifiers as value objects

The constructors of `internal/domain/ids.go` check that a text is a UUID and
keep the text.  They are generic in `uuid.Parse`, of which one thing is used:
it reads the digits at fixed places of the text (`ReadsDigits`).  The parser of
google/uuid does: it reads several spellings of one UUID, with hyphens, with a
URN prefix, between braces and as 32 digits, in either case.  Values are
compared by the text they keep.
-/

namespace MessagingPlatform.ValueObjects

open Errors

section Parse

/-- The sixteen bytes of a UUID. -/
abbrev UUID := List UInt8

/-- The bytes of a text. -/
def textBytes (text : String) : List UInt8 := text.toByteArray.data.toList

/-- The table `xvalues`. -/
def hexValue (byte : UInt8) : Option ℕ :=
  if 48 ≤ byte.toNat ∧ byte.toNat ≤ 57 then some (byte.toNat - 48)
  else if 97 ≤ byte.toNat ∧ byte.toNat ≤ 102 then some (byte.toNat - 87)
  else if 65 ≤ byte.toNat ∧ byte.toNat ≤ 70 then some (byte.toNat - 55)
  else none

/-- The byte that two hexadecimal digits denote. -/
def xtob (high low : UInt8) : Option UInt8 :=
  (hexValue high).bind fun highValue =>
    (hexValue low).map fun lowValue => .ofNat (highValue * 16 + lowValue)

/-- The byte whose digits start at a place. -/
def byteAt (text : List UInt8) (place : ℕ) : Option UInt8 :=
  text[place]?.bind fun high => text[place + 1]?.bind fun low => xtob high low

def readBytes (text : List UInt8) : List ℕ → Option UUID
  | [] => some []
  | place :: places =>
      (byteAt text place).bind fun byte =>
        (readBytes text places).map (byte :: ·)

/-- Where the bytes of `xxxxxxxx-xxxx-xxxx-xxxx-xxxxxxxxxxxx` start. -/
def hyphenatedPlaces : List ℕ :=
  [0, 2, 4, 6, 9, 11, 14, 16, 19, 21, 24, 26, 28, 30, 32, 34]

def plainPlaces : List ℕ := (List.range 16).map (2 * ·)

/-- Where the bytes start in an accepted text of a given length. -/
def startPlaces (length : ℕ) : List ℕ :=
  if length = 36 then hyphenatedPlaces
  else if length = 36 + 9 then hyphenatedPlaces.map (9 + ·)
  else if length = 36 + 2 then hyphenatedPlaces.map (1 + ·)
  else plainPlaces

/-- What is used of `uuid.Parse`: an accepted text is read at the places of its
length. -/
def ReadsDigits (parseUUID : String → Option UUID) : Prop :=
  ∀ text uuid, parseUUID text = some uuid →
    readBytes (textBytes text) (startPlaces (textBytes text).length) =
      some uuid

def hyphen : UInt8 := 45

def parseHyphenated (text : List UInt8) : Option UUID :=
  if text[8]? = some hyphen ∧ text[13]? = some hyphen ∧
      text[18]? = some hyphen ∧ text[23]? = some hyphen then
    readBytes text hyphenatedPlaces
  else none

/-- ASCII lower case. -/
def lowerByte (byte : UInt8) : UInt8 :=
  if 65 ≤ byte.toNat ∧ byte.toNat ≤ 90 then byte + 32 else byte

def urnBytes : List UInt8 := textBytes "urn:uuid:"

/-- `Parse` of google/uuid.  Of a text between braces the outer bytes are not
looked at. -/
def parse (text : List UInt8) : Option UUID :=
  if text.length = 36 then parseHyphenated text
  else if text.length = 36 + 9 then
    if (text.take 9).map lowerByte = urnBytes then
      parseHyphenated (text.drop 9)
    else none
  else if text.length = 36 + 2 then parseHyphenated (text.drop 1)
  else if text.length = 32 then readBytes text plainPlaces
  else none

def googleParse (text : String) : Option UUID := parse (textBytes text)

end Parse

section Constructors

variable (parseUUID : String → Option UUID)

/-- The identifiers that are UUIDs. -/
inductive IDKind where
  | chat
  | user
  | message
  | session
  | device
  | connection
  deriving DecidableEq, Repr

/-- The format of the error of an invalid text. -/
def IDKind.invalidFormat : IDKind → String
  | .chat => "invalid chat ID %q: %w"
  | .user => "invalid user ID %q: %w"
  | .message => "invalid message ID %q: %w"
  | .session => "invalid session ID %q: %w"
  | .device => "invalid device ID %q: %w"
  | .connection => "invalid connection ID %q: %w"

/-- An identifier; the zero value has the empty text. -/
structure ID (kind : IDKind) where
  value : String
  deriving DecidableEq, Repr

abbrev ChatID := ID .chat
abbrev UserID := ID .user
abbrev MessageID := ID .message
abbrev SessionID := ID .session
abbrev DeviceID := ID .device
abbrev ConnectionID := ID .connection

def newID (kind : IDKind) (raw : String) : Except GoError (ID kind) :=
  if raw = "" then .error (.sentinel .errEmptyID)
  else if (parseUUID raw).isNone then
    .error (.errorf kind.invalidFormat [raw] [.sentinel .errInvalidID])
  else .ok ⟨raw⟩

def newChatID (raw : String) : Except GoError ChatID :=
  newID parseUUID .chat raw
def newUserID (raw : String) : Except GoError UserID :=
  newID parseUUID .user raw
def newMessageID (raw : String) : Except GoError MessageID :=
  newID parseUUID .message raw
def newSessionID (raw : String) : Except GoError SessionID :=
  newID parseUUID .session raw
def newDeviceID (raw : String) : Except GoError DeviceID :=
  newID parseUUID .device raw
def newConnectionID (raw : String) : Except GoError ConnectionID :=
  newID parseUUID .connection raw

/-- `String()`. -/
def ID.string {kind : IDKind} (id : ID kind) : String := id.value

variable {parseUUID}

theorem newID_eq_ok_iff {kind : IDKind} {raw : String} {id : ID kind} :
    newID parseUUID kind raw = .ok id ↔
      raw ≠ "" ∧ (∃ uuid, parseUUID raw = some uuid) ∧ id = ⟨raw⟩ := by
  unfold newID
  split_ifs with hempty hnone
  · simp [hempty]
  · rw [Option.isNone_iff_eq_none] at hnone
    simp [hnone]
  · rw [Option.isNone_iff_eq_none] at hnone
    have hsome := Option.ne_none_iff_exists'.mp hnone
    rw [Except.ok.injEq, eq_comm]
    simp [hempty, hsome]

end Constructors

section Spelling

/-- An upper-case hexadecimal digit. -/
def isUpperHex (byte : UInt8) : Bool :=
  65 ≤ byte.toNat && byte.toNat ≤ 70

/-- The places of the digits. -/
def digitPlaces (length : ℕ) : List ℕ :=
  (startPlaces length).flatMap fun place => [place, place + 1]

/-- Two texts are written the same way: they have one length, agree at every
place that is not a digit, and write the same digits in upper case. -/
def SameSpelling (left right : List UInt8) : Prop :=
  left.length = right.length ∧
    ∀ place : ℕ, if place ∈ digitPlaces left.length then
      left[place]?.map isUpperHex = right[place]?.map isUpperHex
    else left[place]? = right[place]?

/-- A digit is determined by its value and its case. -/
theorem eq_of_hexValue {left right : UInt8} {value : ℕ}
    (hleft : hexValue left = some value) (hright : hexValue right = some value)
    (hcase : isUpperHex left = isUpperHex right) : left = right := by
  rw [← UInt8.toNat_inj]
  simp only [isUpperHex, ← Bool.decide_and, decide_eq_decide] at hcase
  unfold hexValue at hleft hright
  split_ifs at hleft hright <;>
    simp only [Option.some.injEq] at hleft hright <;> omega

theorem hexValue_lt {byte : UInt8} {value : ℕ}
    (hvalue : hexValue byte = some value) : value < 16 := by
  unfold hexValue at hvalue
  split_ifs at hvalue <;> simp only [Option.some.injEq] at hvalue <;> omega

/-- The digits at a place have values. -/
theorem digits_of_byteAt {text : List UInt8} {place : ℕ} {byte : UInt8}
    (hbyte : byteAt text place = some byte) :
    ∃ high low, text[place]?.bind hexValue = some high ∧
      text[place + 1]?.bind hexValue = some low ∧
      high = byte.toNat / 16 ∧ low = byte.toNat % 16 := by
  simp only [byteAt, xtob, Option.bind_eq_some_iff, Option.map_eq_some_iff]
    at hbyte
  obtain ⟨highByte, hhighByte, lowByte, hlowByte, high, hhigh, low, hlow,
    rfl⟩ := hbyte
  have hhighLt := hexValue_lt hhigh
  have hlowLt := hexValue_lt hlow
  refine ⟨high, low, ?_, ?_, ?_, ?_⟩
  · rw [hhighByte, Option.bind_some, hhigh]
  · rw [hlowByte, Option.bind_some, hlow]
  · rw [UInt8.toNat_ofNat']
    omega
  · rw [UInt8.toNat_ofNat']
    omega

/-- Texts that are read as one UUID have the same digits. -/
theorem digits_of_readBytes {left right : List UInt8} {places : List ℕ}
    {uuid : UUID} (hleft : readBytes left places = some uuid)
    (hright : readBytes right places = some uuid) {place : ℕ}
    (hplace : place ∈ places.flatMap fun start => [start, start + 1]) :
    ∃ value, left[place]?.bind hexValue = some value ∧
      right[place]?.bind hexValue = some value := by
  induction places generalizing uuid with
  | nil => cases hplace
  | cons start starts ih =>
      simp only [readBytes, Option.bind_eq_some_iff, Option.map_eq_some_iff]
        at hleft hright
      obtain ⟨byte, hleftByte, rest, hleftRest, rfl⟩ := hleft
      obtain ⟨byte', hrightByte, rest', hrightRest, heq⟩ := hright
      obtain ⟨rfl, rfl⟩ := List.cons_eq_cons.mp heq
      rw [List.flatMap_cons, List.mem_append] at hplace
      rcases hplace with hplace | hplace
      · obtain ⟨high, low, hhigh, hlow, rfl, rfl⟩ :=
          digits_of_byteAt hleftByte
        obtain ⟨high', low', hhigh', hlow', rfl, rfl⟩ :=
          digits_of_byteAt hrightByte
        rw [List.mem_pair] at hplace
        rcases hplace with rfl | rfl
        · exact ⟨_, hhigh, hhigh'⟩
        · exact ⟨_, hlow, hlow'⟩
      · exact ih hleftRest hrightRest hplace

theorem readBytes_drop (text : List UInt8) (offset : ℕ) (places : List ℕ) :
    readBytes (text.drop offset) places =
      readBytes text (places.map (offset + ·)) := by
  induction places with
  | nil => rfl
  | cons place places ih =>
      simp only [readBytes, List.map_cons, ih, byteAt, List.getElem?_drop,
        Nat.add_assoc]

theorem readBytes_of_parseHyphenated {text : List UInt8} {uuid : UUID}
    (hparse : parseHyphenated text = some uuid) :
    readBytes text hyphenatedPlaces = some uuid := by
  unfold parseHyphenated at hparse
  split_ifs at hparse
  exact hparse

theorem readsDigits_googleParse : ReadsDigits googleParse := by
  intro text uuid hparse
  unfold googleParse parse at hparse
  unfold startPlaces
  split_ifs at hparse ⊢
  · exact readBytes_of_parseHyphenated hparse
  · rw [← readBytes_drop]
    exact readBytes_of_parseHyphenated hparse
  · rw [← readBytes_drop]
    exact readBytes_of_parseHyphenated hparse
  · exact hparse

/-- One UUID has one text in each spelling. -/
theorem eq_of_sameSpelling {left right : List UInt8} {uuid : UUID}
    (hleft : readBytes left (startPlaces left.length) = some uuid)
    (hright : readBytes right (startPlaces right.length) = some uuid)
    (hspelling : SameSpelling left right) : left = right := by
  rw [← hspelling.1] at hright
  apply List.ext_getElem?
  intro place
  have hplace := hspelling.2 place
  split at hplace
  · next hdigit =>
      obtain ⟨value, hleftValue, hrightValue⟩ :=
        digits_of_readBytes hleft hright hdigit
      obtain ⟨leftByte, hleftByte, hleftHex⟩ :=
        Option.bind_eq_some_iff.mp hleftValue
      obtain ⟨rightByte, hrightByte, hrightHex⟩ :=
        Option.bind_eq_some_iff.mp hrightValue
      rw [hleftByte, hrightByte, Option.map_some, Option.map_some,
        Option.some.injEq] at hplace
      rw [hleftByte, hrightByte, eq_of_hexValue hleftHex hrightHex hplace]
  · exact hplace

theorem textBytes_injective : Function.Injective textBytes := by
  intro left right heq
  rw [← String.toByteArray_inj]
  apply ByteArray.ext
  exact Array.toList_inj.mp heq

end Spelling

section Comparison

variable {parseUUID : String → Option UUID} {kind : IDKind} 
variable {left right : String} {leftID rightID : ID kind}

/-- Identifiers are compared by their texts: those of one UUID are equal
exactly if they are written the same way.  An identifier is constructed again
from its text. -/
theorem ids_equal_iff (hparse : ReadsDigits parseUUID)
    (hleft : newID parseUUID kind left = .ok leftID)
    (hright : newID parseUUID kind right = .ok rightID) :
    (leftID = rightID ↔ parseUUID left = parseUUID right ∧
      SameSpelling (textBytes left) (textBytes right)) ∧
    newID parseUUID kind leftID.string = .ok leftID := by
  obtain ⟨-, ⟨uuid, huuid⟩, rfl⟩ := newID_eq_ok_iff.mp hleft
  obtain ⟨-, ⟨uuid', huuid'⟩, rfl⟩ := newID_eq_ok_iff.mp hright
  refine ⟨?_, hleft⟩
  constructor
  · intro heq
    rw [ID.mk.injEq] at heq
    subst heq
    exact ⟨rfl, rfl, fun place => by split <;> rfl⟩
  · rintro ⟨hsame, hspelling⟩
    rw [huuid, huuid', Option.some.injEq] at hsame
    subst hsame
    rw [ID.mk.injEq]
    exact textBytes_injective (eq_of_sameSpelling (hparse _ _ huuid)
      (hparse _ _ huuid') hspelling)

/-- Two chats with texts in lower case. -/
theorem lower_case_ids_compared :
    ∃ leftID rightID : ChatID,
      newChatID googleParse "550e8400-e29b-41d4-a716-446655440000" =
        .ok leftID ∧
      newChatID googleParse "550e8400-e29b-41d4-a716-446655440001" =
        .ok rightID ∧
      leftID ≠ rightID ∧ newChatID googleParse leftID.string = .ok leftID := by
  have hleft : newID googleParse .chat
      "550e8400-e29b-41d4-a716-446655440000" =
        .ok ⟨"550e8400-e29b-41d4-a716-446655440000"⟩ := by
    rw [newID_eq_ok_iff]
    exact ⟨by decide, ⟨_, rfl⟩, rfl⟩
  have hright : newID googleParse .chat
      "550e8400-e29b-41d4-a716-446655440001" =
        .ok ⟨"550e8400-e29b-41d4-a716-446655440001"⟩ := by
    rw [newID_eq_ok_iff]
    exact ⟨by decide, ⟨_, rfl⟩, rfl⟩
  have hiff := ids_equal_iff readsDigits_googleParse hleft hright
  refine ⟨_, _, hleft, hright, ?_, hiff.2⟩
  rw [ne_eq, hiff.1]
  rintro ⟨hsame, -⟩
  revert hsame
  decide

/-- One chat, written in lower and in upper case. -/
theorem case_tells_ids_apart :
    ∃ leftID rightID : ChatID,
      newChatID googleParse "550e8400-e29b-41d4-a716-446655440000" =
        .ok leftID ∧
      newChatID googleParse "550E8400-E29B-41D4-A716-446655440000" =
        .ok rightID ∧
      googleParse "550e8400-e29b-41d4-a716-446655440000" =
        googleParse "550E8400-E29B-41D4-A716-446655440000" ∧
      leftID ≠ rightID := by
  refine ⟨⟨"550e8400-e29b-41d4-a716-446655440000"⟩,
    ⟨"550E8400-E29B-41D4-A716-446655440000"⟩, ?_, ?_, by decide, by decide⟩
  · exact newID_eq_ok_iff.mpr ⟨by decide, ⟨_, rfl⟩, rfl⟩
  · exact newID_eq_ok_iff.mpr ⟨by decide, ⟨_, rfl⟩, rfl⟩

end Comparison

end MessagingPlatform.ValueObjects
