import MessagingPlatform.System.ActiveCode
import MessagingPlatform.System.SingleSteps

/-!
# Usable or replaceable

A verification compares the instant that a record carries with the clock; the
condition of the write compares the texts of two whole seconds.  A record whose
instant has passed can no longer be used, but it can be replaced only from the
next whole second on.  In between it blocks a new code, and a request for one is
answered with an expiry that has passed.
-/

namespace MessagingPlatform.ExpiredCodes

open Program
open Interleaving
open OneStep
open Instants
open Records
open Primitives
open Tables
open Operations
open Stores
open StoreSteps
open Flows
open FlowSteps
open Service
open SingleSteps
open Deployment

/-- `validateOTPRecord` accepts the candidate. -/
def Accepts (cfg : AuthServiceConfig) (store : Store)
    (phoneHash otpCandidate : String) : Prop :=
  ∃ record after, Ends (steps cfg)
    (validateOTPRecord phoneHash otpCandidate).run store (.ok record) after

/-- `CreateOTP` puts its record in the place of the stored one. -/
def Overwrites (cfg : AuthServiceConfig) (store : Store)
    (record : OTPRecord) : Prop :=
  ∃ after, Ends (steps cfg) (createOTP record).run store (.ok ()) after

/-- The record has expired, within the present second. -/
def JustExpired (now : Time) (item : OTPItem) : Prop :=
  ∃ expiry, parse item.expiresAt = some expiry ∧ expiry < now ∧
    now < expiry + second

variable {cfg : AuthServiceConfig} {store : Store} {phoneHash : String}
variable {item : OTPItem} {now : Time}

theorem second_pos : 0 < second := by decide

/-- The texts of two whole seconds in order. -/
theorem before_format_iff {text : TimeText} {expiry : Time}
    (hparse : parse text = some expiry) :
    text.before (format now) = true ↔ expiry + second ≤ now := by
  cases text with
  | empty => cases hparse
  | rfc3339 unixSecond =>
      simp only [parse, Option.some.injEq] at hparse
      subst hparse
      simp only [TimeText.before, format, decide_eq_true_eq]
      calc
        unixSecond < now / second ↔ unixSecond + 1 ≤ now / second :=
          Int.lt_iff_add_one_le
        _ ↔ (unixSecond + 1) * second ≤ now :=
          Int.le_ediv_iff_mul_le second_pos
        _ ↔ unixSecond * second + second ≤ now := by rw [add_mul, one_mul]

/-- A record that is pending and whose second has not passed is in the way. -/
theorem otpReplaceable_iff (hpending : item.status = .pending) :
    otpReplaceable (format now) (some item) = true ↔
      ∀ expiry, parse item.expiresAt = some expiry →
        expiry + second ≤ now := by
  have hverified : (item.status == .verified) = false := by
    rw [hpending]
    rfl
  rw [otpReplaceable, hverified, Bool.false_or]
  cases htext : item.expiresAt with
  | empty => simp [TimeText.before, format, parse]
  | rfc3339 unixSecond =>
      have hparse : parse (.rfc3339 unixSecond) =
          some (unixSecond * second) := rfl
      rw [before_format_iff hparse, hparse]
      simp

theorem accepts_iff {otpCandidate : String}
    (hstored : store.otpRequests.lookup phoneHash = some item)
    (hpending : item.status = .pending)
    (hattempts : item.attemptCount < maxOTPVerifyAttempts)
    (hmatches : Matches cfg otpCandidate phoneHash item) :
    Accepts cfg store phoneHash otpCandidate ↔
      ∃ expiry, parse item.expiresAt = some expiry ∧ store.clock ≤ expiry := by
  constructor
  · rintro ⟨record, after, hends⟩
    obtain ⟨-, found, hopen, -, -⟩ := open_of_validateOTPRecord hends
    have hfound := hopen.stored
    rw [hstored, Option.some.injEq] at hfound
    rw [hfound]
    exact hopen.unexpired
  · intro hunexpired
    exact ⟨_, _, (certain_validateOTPRecord
      ⟨hstored, hpending, hattempts, hunexpired⟩ hmatches).ends⟩

theorem overwrites_iff {record : OTPRecord} :
    Overwrites cfg store record ↔
      otpReplaceable (format store.clock)
        (store.otpRequests.lookup record.phoneHash) = true := by
  constructor
  · rintro ⟨after, hends⟩
    exact ((written_of_createOTP hends).1 rfl).1
  · intro hreplaceable
    exact ⟨_, (certain_createOTP hreplaceable).ends⟩

/-- What a request for a code answers, against the record it finds. -/
theorem past_iff {first ended : Pool} {id : ℕ} {phone clientIP : String}
    {history : History} {result : RequestOTPResult}
    (hstepped : Stepped cfg anyChoice first id (.requestOTP phone clientIP)
      history (.requestOTP (.ok result)) ended) :
    result.expiresAt < first.store.clock ↔
      ∃ item, first.store.otpRequests.lookup (hashPhone cfg phone) =
          some item ∧ item.status = .pending ∧
        JustExpired first.store.clock item := by
  have hruns := runs_requestOTP.mp hstepped.runs
  rcases answer_of_requestOTP hruns with ⟨otp, hissued⟩ | ⟨item, hrepeated⟩
  · refine iff_of_false ?_ ?_
    · have hvalidity : 0 ≤ otpValidityDuration := by decide
      rw [hissued.expiresAt, not_lt]
      exact le_add_of_nonneg_right hvalidity
    · rintro ⟨item, hitem, hpending, expiry, hparse, -, hsecond⟩
      have hreplaceable := hissued.replaceable
      rw [hitem, otpReplaceable_iff hpending] at hreplaceable
      exact absurd (hreplaceable expiry hparse) (not_le.mpr hsecond)
  · have hpending : item.status = .pending := by
      cases hstatus : item.status with
      | pending => rfl
      | verified =>
          have hactive := hrepeated.active
          simp [otpReplaceable, hstatus] at hactive
    have hsecond : first.store.clock < result.expiresAt + second := by
      have hactive := hrepeated.active
      rw [← Bool.not_eq_true, otpReplaceable_iff hpending] at hactive
      by_contra hpassed
      refine hactive fun expiry hparse => ?_
      rw [hrepeated.expiresAt, Option.some.injEq] at hparse
      exact hparse ▸ not_lt.mp hpassed
    constructor
    · intro hpast
      exact ⟨item, hrepeated.found, hpending, result.expiresAt,
        hrepeated.expiresAt, hpast, hsecond⟩
    · rintro ⟨found, hfound, -, expiry, hparse, hpast, -⟩
      rw [hrepeated.found, Option.some.injEq] at hfound
      rw [← hfound, hrepeated.expiresAt, Option.some.injEq] at hparse
      rw [hparse]
      exact hpast

/-- A pending record with attempts left is usable or replaceable, and not both,
at every instant but those between its expiry and the next whole second.  A
request for a code that is served as one step and succeeds reports an expiry
that has passed exactly if it finds a pending record at such an instant. -/
theorem usable_or_replaceable_iff (cfg : AuthServiceConfig) :
    (∀ store phoneHash item otp record,
      store.otpRequests.lookup phoneHash = some item →
      item.status = .pending → item.attemptCount < maxOTPVerifyAttempts →
      Matches cfg otp phoneHash item → record.phoneHash = phoneHash →
        (Xor (Accepts cfg store phoneHash otp)
            (Overwrites cfg store record) ↔
          ¬ JustExpired store.clock item)) ∧
    ∀ first id phone clientIP history result ended,
      Stepped cfg anyChoice first id (.requestOTP phone clientIP) history
        (.requestOTP (.ok result)) ended →
      (first.store.clock ≤ result.expiresAt ↔
        ∀ item, first.store.otpRequests.lookup (hashPhone cfg phone) =
            some item → item.status = .pending →
          ¬ JustExpired first.store.clock item) := by
  constructor
  · rintro store phoneHash item otp record hstored hpending hattempts hmatches
      rfl
    rw [accepts_iff hstored hpending hattempts hmatches, overwrites_iff,
      hstored, otpReplaceable_iff hpending, JustExpired]
    cases hparse : parse item.expiresAt with
    | none => simp [Xor]
    | some expiry =>
        simp only [Option.some.injEq, exists_eq_left', forall_eq']
        have hsecond := second_pos
        rw [Xor]
        constructor
        · rintro (⟨husable, -⟩ | ⟨hreplaceable, -⟩) ⟨hpast, hwithin⟩
          · exact absurd husable (not_le.mpr hpast)
          · exact absurd hreplaceable (not_le.mpr hwithin)
        · intro hnot
          by_cases husable : store.clock ≤ expiry
          · left
            refine ⟨husable, fun hreplaceable => ?_⟩
            linarith
          · right
            refine ⟨?_, husable⟩
            by_contra hwithin
            exact hnot ⟨not_le.mp husable, not_le.mp hwithin⟩
  · intro first id phone clientIP history result ended hstepped
    rw [← not_lt, past_iff hstepped]
    simp

/-- The record that a phone's first request of the evening stores. -/
def firstRecord : OTPRecord :=
  newOTPRecord (deployment []) "123456" phoneDigest evening

/-- A service that has texted a code. -/
def texted : Pool :=
  (machine (deployment [])).runTo anyStep (start evening)
    (serve 0 (.requestOTP phone "203.0.113.7") (issuing 123456))

/-- The same service half a second after the code has expired. -/
def textedBefore : Pool :=
  (machine (deployment [])).runTo anyStep texted
    [.env (.tick (evening + otpValidityDuration + 500000000))]

/-- A request that finds a record in its way. -/
def asking (pool : Pool) : Pool :=
  served (deployment []) anyChoice pool 1 (.requestOTP phone "203.0.113.7")
    [.ok, .ok, .number 654321, .ok, .ok, .ok, .ok]

theorem texted_record :
    texted.store.otpRequests.lookup phoneDigest = some (toOTPItem firstRecord) ∧
      texted.store.clock = evening ∧
      (outcomeAt (asking texted) 1).bind requestResult =
        some ⟨evening + otpValidityDuration, otpRetryAfterSeconds⟩ := by
  decide +kernel

theorem textedBefore_record :
    textedBefore.store.otpRequests.lookup phoneDigest =
        some (toOTPItem firstRecord) ∧
      textedBefore.store.clock = evening + otpValidityDuration + 500000000 ∧
      (outcomeAt (asking textedBefore) 1).bind requestResult =
        some ⟨evening + otpValidityDuration, otpRetryAfterSeconds⟩ := by
  decide +kernel

theorem parse_firstRecord :
    parse (toOTPItem firstRecord).expiresAt =
      some (evening + otpValidityDuration) := by
  decide

theorem matches_firstRecord :
    Matches (deployment []) "123456" phoneDigest (toOTPItem firstRecord) := rfl

/-- A code that has just been texted is usable and not replaceable, and a
second request reports when it expires. -/
theorem texted_usable :
    Xor (Accepts (deployment []) texted.store phoneDigest "123456")
        (Overwrites (deployment []) texted.store firstRecord) ∧
      ∃ history result ended,
        Stepped (deployment []) anyChoice texted 1
          (.requestOTP phone "203.0.113.7") history (.requestOTP (.ok result))
          ended ∧
        texted.store.clock ≤ result.expiresAt := by
  obtain ⟨hstored, hclock, hresult⟩ := texted_record
  have hnot : ¬ JustExpired texted.store.clock (toOTPItem firstRecord) := by
    rintro ⟨expiry, hparse, hpast, -⟩
    rw [parse_firstRecord, Option.some.injEq] at hparse
    rw [← hparse, hclock] at hpast
    exact absurd hpast (by decide)
  obtain ⟨huse, hrequest⟩ := usable_or_replaceable_iff (deployment [])
  obtain ⟨history, hstepped⟩ := stepped_served (by decide +kernel)
    (outcome_of_bind eq_of_requestResult hresult)
  refine ⟨(huse texted.store phoneDigest _ "123456" firstRecord hstored rfl
    (by decide) matches_firstRecord rfl).mpr hnot, history, _, _, hstepped, ?_⟩
  refine (hrequest texted 1 _ _ history _ _ hstepped).mpr ?_
  rintro item hitem -
  rw [show hashPhone (deployment []) phone = phoneDigest by decide +kernel,
    hstored, Option.some.injEq] at hitem
  rw [← hitem]
  exact hnot

/-- Half a second after the expiry of a code it is neither usable nor
replaceable, and a request for a new one succeeds with the expiry that has
passed. -/
theorem textedBefore_blocked :
    ¬ Accepts (deployment []) textedBefore.store phoneDigest "123456" ∧
      ¬ Overwrites (deployment []) textedBefore.store firstRecord ∧
      ∃ history result ended,
        Stepped (deployment []) anyChoice textedBefore 1
          (.requestOTP phone "203.0.113.7") history (.requestOTP (.ok result))
          ended ∧
        result.expiresAt < textedBefore.store.clock := by
  obtain ⟨hstored, hclock, hresult⟩ := textedBefore_record
  obtain ⟨history, hstepped⟩ := stepped_served (by decide +kernel)
    (outcome_of_bind eq_of_requestResult hresult)
  refine ⟨?_, ?_, history, _, _, hstepped, ?_⟩
  · rw [accepts_iff hstored rfl (by decide) matches_firstRecord,
      parse_firstRecord, hclock]
    rintro ⟨expiry, hparse, hunexpired⟩
    cases hparse
    exact absurd hunexpired (by decide)
  · rw [overwrites_iff, show firstRecord.phoneHash = phoneDigest from rfl,
      hstored, otpReplaceable_iff rfl, hclock]
    intro hreplaceable
    exact absurd (hreplaceable _ parse_firstRecord) (by decide)
  · rw [hclock]
    decide

end MessagingPlatform.ExpiredCodes
