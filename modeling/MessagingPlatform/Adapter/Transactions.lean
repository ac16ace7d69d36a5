import MessagingPlatform.Adapter.Stores

/-!
# The two transactions

What the store looked like when a transaction of the service went through, and
what it looks like afterwards.
-/

namespace MessagingPlatform.Transactions

open Instants
open Records
open Identifiers
open Tables
open Operations
open Stores

variable {before : Store}

/-- The record that a transaction consumes: pending, with the expiry and the
MAC that the transaction names. -/
structure Consumable (before : Store) (phoneHash : String)
    (expiresAt : TimeText) (otpMAC : String) (item : OTPItem) : Prop where
  stored : before.otpRequests.lookup phoneHash = some item
  pending : item.status = .pending
  expiry : item.expiresAt = expiresAt
  mac : item.otpMAC = otpMAC

/-- The record after its consumption. -/
def consumed (item : OTPItem) : OTPItem := { item with status := .verified }

theorem holds_otpVerifyUpdate {phoneHash otpMAC : String}
    {expiresAt : TimeText}
    (hholds : (buildOTPVerifyUpdate phoneHash expiresAt otpMAC).holds before =
      true) :
    ∃ item, Consumable before phoneHash expiresAt otpMAC item := by
  simp only [buildOTPVerifyUpdate, TransactWriteItem.holds] at hholds
  cases hlookup : before.otpRequests.lookup phoneHash with
  | none => simp [hlookup] at hholds
  | some item =>
      simp only [hlookup, Bool.and_eq_true, beq_iff_eq] at hholds
      exact ⟨item, hlookup, hholds.1.1, hholds.1.2, hholds.2⟩

theorem write_otpVerifyUpdate {phoneHash otpMAC : String}
    {expiresAt : TimeText} {item : OTPItem}
    (hstored : before.otpRequests.lookup phoneHash = some item) :
    (buildOTPVerifyUpdate phoneHash expiresAt otpMAC).write before =
      { before with
        otpRequests :=
          before.otpRequests.insert phoneHash (consumed item) } := by
  simp only [buildOTPVerifyUpdate, TransactWriteItem.write, hstored, consumed]

def registrationSession (params : RegistrationParams) : SessionItem :=
  sessionAttributes params.userID params.deviceID params.refreshTokenHash
    params.now params.sessionExpiresAt params.sessionTTL

def loginSession (params : LoginParams) : SessionItem :=
  sessionAttributes params.userID params.deviceID params.refreshTokenHash
    params.createdAt params.sessionExpiresAt params.sessionTTL

/-- A registration that goes through consumes a record, adds a user with the
reservation of the phone, and adds a session. -/
theorem registration_committed {params : RegistrationParams}
    (hholds : ∀ item ∈ registrationItems params, item.holds before = true) :
    (∃ item, Consumable before params.phoneHash params.otpExpiresAt
        params.otpMAC item ∧
      (registrationItems params).foldl TransactWriteItem.write before =
        { before with
          otpRequests := before.otpRequests.insert params.phoneHash
            (consumed item)
          users := (before.users.insert params.userID
              (userAttributes params.phoneNumber params.now)).insert
            (phoneSentinelKey params.phoneNumber)
            (sentinelAttributes params.phoneNumber params.userID)
          sessions := before.sessions.insert params.sessionID
            (registrationSession params) }) ∧
      before.users.lookup params.userID = none ∧
      before.users.lookup (phoneSentinelKey params.phoneNumber) = none ∧
      before.sessions.lookup params.sessionID = none := by
  simp only [registrationItems, List.forall_mem_cons] at hholds
  obtain ⟨hotp, huser, hsentinel, hsession, -⟩ := hholds
  obtain ⟨item, hitem⟩ := holds_otpVerifyUpdate hotp
  refine ⟨⟨item, hitem, ?_⟩, ?_, ?_, ?_⟩
  · simp only [registrationItems, List.foldl_cons, List.foldl_nil,
      write_otpVerifyUpdate hitem.stored]
    rfl
  · exact Option.isNone_iff_eq_none.mp huser
  · exact Option.isNone_iff_eq_none.mp hsentinel
  · exact Option.isNone_iff_eq_none.mp hsession

/-- A login that goes through consumes a record and adds a session. -/
theorem login_committed {params : LoginParams}
    (hholds : ∀ item ∈ loginItems params, item.holds before = true) :
    (∃ item, Consumable before params.phoneHash params.otpExpiresAt
        params.otpMAC item ∧
      (loginItems params).foldl TransactWriteItem.write before =
        { before with
          otpRequests := before.otpRequests.insert params.phoneHash
            (consumed item)
          sessions := before.sessions.insert params.sessionID
            (loginSession params) }) ∧
      before.sessions.lookup params.sessionID = none := by
  simp only [loginItems, List.forall_mem_cons] at hholds
  obtain ⟨hotp, hsession, -⟩ := hholds
  obtain ⟨item, hitem⟩ := holds_otpVerifyUpdate hotp
  refine ⟨⟨item, hitem, ?_⟩, ?_⟩
  · simp only [loginItems, List.foldl_cons, List.foldl_nil,
      write_otpVerifyUpdate hitem.stored]
    rfl
  · exact Option.isNone_iff_eq_none.mp hsession

end MessagingPlatform.Transactions
