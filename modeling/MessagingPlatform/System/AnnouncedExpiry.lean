import MessagingPlatform.System.Verifications

/-!
# The announced expiry

`RequestOTP` returns the instant at which its code expires, and stores the text
of that instant, which has no fraction of a second.  A verification reads the
text.  Between the whole second it denotes and the announced instant the code
is refused.
-/

namespace MessagingPlatform.AnnouncedExpiry

open Program
open Interleaving
open OneStep
open Instants
open Records
open Identifiers
open Primitives
open Tables
open Operations
open Effects
open Stores
open StoreSteps
open Flows
open FlowSteps
open VerifySteps
open Service
open ServiceRules
open MessagingPlatform.Runs
open Commits
open Registrations
open SingleSteps
open Deployment
open ExpiredCodes
open Verifications

/-- The phone that a request names, hashed. -/
def requestedHash (cfg : AuthServiceConfig) : Request → Option String
  | .requestOTP phone _ => some (hashPhone cfg phone)
  | .verifyOTP phone _ _ => some (hashPhone cfg phone)
  | .refreshTokens _ _ _ => none
  | .logout _ => none

/-- No call for the phone makes a request. -/
def sparesPhone (cfg : AuthServiceConfig) (phone : String) (pool : Pool) :
    Label → Prop
  | .exec id _ => ∀ call ∈ pool.calls.lookup id,
      requestedHash cfg call.req ≠ some (hashPhone cfg phone)
  | _ => True

instance (cfg : AuthServiceConfig) (phone : String) (pool : Pool) :
    DecidablePred (sparesPhone cfg phone pool)
  | .start _ _ => isTrue trivial
  | .env _ => isTrue trivial
  | .exec _ _ => inferInstanceAs (Decidable (∀ call ∈ _, _))

/-- The second that the stored text denotes is over, the announced instant is
not. -/
def CutOff (expiresAt now : Time) : Prop :=
  unix expiresAt * second < now ∧ now ≤ expiresAt

variable {cfg : AuthServiceConfig} {admissible : Pool → Label → Prop}
variable {clock : Time} {pool : Pool} {phone : String}

section Idle

/-- A call for another phone leaves the record alone. -/
theorem record_of_other {id : ℕ} {call : Call} {op : Op} {response : op.Res}
    {after : Store} {phoneHash : String}
    (hexec : Exec cfg pool id call op response after)
    (hother : requestedHash cfg call.req ≠ some phoneHash) :
    after.otpRequests.lookup phoneHash =
      pool.store.otpRequests.lookup phoneHash := by
  have hguard := hexec.guarded
  obtain ⟨req, history, rest⟩ := call
  cases hexec.effect with
  | otpPut written item now hreplaceable =>
      cases req with
      | requestOTP phone clientIP =>
          obtain ⟨_, _, rfl, -⟩ := hguard
          exact AList.lookup_insert_ne fun heq => hother (heq ▸ rfl)
      | _ => exact hguard.elim
  | otpIncremented written item hitem =>
      cases req with
      | verifyOTP phone otpCandidate deviceID =>
          obtain ⟨rfl, -⟩ := hguard
          exact AList.lookup_insert_ne fun heq => hother (heq ▸ rfl)
      | _ => exact hguard.elim
  | committed items hholds =>
      obtain ⟨phone, otpCandidate, deviceID, rfl, hverify⟩ :=
        verifyOTP_of_guard hguard
      obtain ⟨tried, created, userID, item, hcommit⟩ :=
        commit_of_guard hverify hholds
      rw [hcommit.otpRequests]
      exact AList.lookup_insert_ne fun heq => hother (heq ▸ rfl)
  | _ => rfl

/-- The record stays as it is while no call for the phone makes a request. -/
theorem record_of_idle {first : Pool} {earlier : Pool → Label → Prop}
    (hbase : (machine cfg).Reach earlier (start clock) first)
    (hidle : (machine cfg).Reach (sparesPhone cfg phone) first pool) :
    pool.store.otpRequests.lookup (hashPhone cfg phone) =
      first.store.otpRequests.lookup (hashPhone cfg phone) := by
  refine invariant_from (I := fun pool =>
    pool.store.otpRequests.lookup (hashPhone cfg phone) =
      first.store.otpRequests.lookup (hashPhone cfg phone))
    hbase rfl ?_ ?_ ?_ hidle
  · intro pool id req _ ih _ _ _
    exact ih
  · intro pool id choice call op next response after _ ih hexec hspares _
    exact (record_of_other hexec (hspares call hexec.lookup)).trans ih
  · intro pool change after _ ih hadvance _ _
    change after.otpRequests.lookup _ = _
    rw [(framed_of_advance hadvance).otpRequests]
    exact ih

end Idle

section Verification

variable {store : Store} {otp deviceID : String} {requestedAt : Time}

/-- The code of a stored record is open up to the second of its text. -/
theorem open_newOTPRecord
    (hstored : store.otpRequests.lookup (hashPhone cfg phone) =
      some (toOTPItem (newOTPRecord cfg otp (hashPhone cfg phone)
        requestedAt))) {item : OTPItem} :
    Open store (hashPhone cfg phone) item ↔
      item = toOTPItem (newOTPRecord cfg otp (hashPhone cfg phone)
          requestedAt) ∧
        store.clock ≤ unix (requestedAt + otpValidityDuration) * second := by
  constructor
  · intro hopen
    have hitem := hopen.stored
    rw [hstored, Option.some.injEq] at hitem
    obtain ⟨expiry, hparse, hunexpired⟩ := hopen.unexpired
    rw [← hitem] at hparse
    cases hparse
    exact ⟨hitem.symm, hunexpired⟩
  · rintro ⟨rfl, hunexpired⟩
    have hattempts : (0 : ℕ) < maxOTPVerifyAttempts := by decide
    exact ⟨hstored, rfl, hattempts, _, rfl, hunexpired⟩

/-- The code that was stored is accepted up to the second of its text. -/
theorem succeeds_iff
    (hreach : (machine cfg).Reach admissible (start clock) pool)
    (hphone : matchesE164 phone = true) (hdevice : deviceID ≠ "")
    (hlimits : WithinLimits pool.store (hashPhone cfg phone))
    (hstored : pool.store.otpRequests.lookup (hashPhone cfg phone) =
      some (toOTPItem (newOTPRecord cfg otp (hashPhone cfg phone)
        requestedAt)))
    {outcome : Except Errors.GoError VerifyOTPResult} {after : Store}
    (hends : Ends (steps cfg) (verifyOTP cfg phone otp deviceID).run pool.store
      outcome after) :
    (∃ tokens, outcome = .ok tokens) ↔
      pool.store.clock ≤ unix (requestedAt + otpValidityDuration) * second ∧
        ¬ Unlisted pool.store phone := by
  constructor
  · rintro ⟨tokens, rfl⟩
    obtain ⟨item, hacceptable⟩ := acceptable_of_ends hends
    exact ⟨((open_newOTPRecord hstored).mp hacceptable.opened).2,
      fun hunlisted => fails_of_unlisted hunlisted hends⟩
  · rintro ⟨hunexpired, hlisted⟩
    have hacceptable : Acceptable cfg pool.store phone otp deviceID
        (toOTPItem (newOTPRecord cfg otp (hashPhone cfg phone) requestedAt)) :=
      ⟨hphone, hdevice, hlimits,
        (open_newOTPRecord hstored).mpr ⟨rfl, hunexpired⟩, rfl⟩
    obtain ⟨tokens, houtcome, -⟩ := (loggedIn_of_acceptable hacceptable
      (listed_of_reach hreach hlisted) (keysIssued_of_reach hreach)).1 _ _ hends
    exact ⟨tokens, houtcome⟩

theorem matches_of_requestOTP {permits : Choice → Prop} {clientIP : String}
    {result : RequestOTPResult} {after : Store}
    (hends : Ends (performs cfg permits) (requestOTP cfg phone clientIP).run
      store (.ok result) after) : matchesE164 phone = true := by
  unfold requestOTP at hends
  split at hends
  · cases ((certain_run_throw _ _).mp hends).1
  · next hvalid => exact matches_of_newPhoneNumber hvalid

end Verification

/-- A request is served as one step, stores a code, sends it and announces its
expiry.  While no call for the phone makes a request, a verification with that
code, served as one step within the limits, succeeds exactly up to the announced
expiry, unless it comes in the fraction of a second that the stored text lacks,
or the phone is registered and the index does not list it yet.  It returns if
the random sources have values left. -/
theorem announced_expiry_iff (cfg : AuthServiceConfig) (clock : Time)
    (first sent later : Pool)
    (hreach : (machine cfg).Reach anyStep (start clock) first)
    (phone clientIP otp deviceID : String) (requestID verifyID : ℕ)
    (history : History) (result : RequestOTPResult)
    (hrequest : Stepped cfg anyChoice first requestID
      (.requestOTP phone clientIP) history (.requestOTP (.ok result)) sent)
    (hcode : (phone, otp) ∈ sentCodes history)
    (hidle : (machine cfg).Reach (sparesPhone cfg phone) sent later)
    (hdevice : deviceID ≠ "")
    (hlimits : WithinLimits later.store (hashPhone cfg phone)) :
    (∀ performed outcome ended,
      Stepped cfg Choice.unfaulted later verifyID
        (.verifyOTP phone otp deviceID) performed (.verifyOTP outcome) ended →
      (((∃ tokens, outcome = .ok tokens) ↔
          later.store.clock ≤ result.expiresAt) ↔
        ¬ (CutOff result.expiresAt later.store.clock ∨
          later.store.clock ≤ result.expiresAt ∧
            Unlisted later.store phone))) ∧
    (later.calls.lookup verifyID = none → Supplied later.store →
      ¬ Unlisted later.store phone →
      ∃ performed outcome ended,
        Stepped cfg Choice.unfaulted later verifyID
          (.verifyOTP phone otp deviceID) performed (.verifyOTP outcome)
          ended) := by
  have hrequested := runs_requestOTP.mp hrequest.runs
  have hphone := matches_of_requestOTP ⟨_, hrequested⟩
  have hsent := hrequest.reach hreach
  have hlater : (machine cfg).Reach anyStep (start clock) later :=
    hsent.trans (hidle.mono fun _ _ _ => trivial)
  obtain ⟨issued, hissued⟩ : ∃ issued, Issued cfg first.store sent.store phone
      issued history result := by
    rcases answer_of_requestOTP hrequested with hissued | ⟨item, hrepeated⟩
    · exact hissued
    · rw [hrepeated.sent] at hcode
      cases hcode
  have hsame : issued = otp := by
    rw [hissued.sent, List.mem_singleton, Prod.mk.injEq] at hcode
    exact hcode.2.symm
  subst hsame
  have hstored : later.store.otpRequests.lookup (hashPhone cfg phone) =
      some (toOTPItem (newOTPRecord cfg issued (hashPhone cfg phone)
        first.store.clock)) := by
    rw [record_of_idle hsent hidle, hissued.stored, AList.lookup_insert]
  constructor
  · intro performed outcome ended hverify
    rw [succeeds_iff hlater hphone hdevice hlimits hstored
      ⟨_, runs_verifyOTP.mp hverify.runs⟩, ← hissued.expiresAt, CutOff]
    have hfloor : unix result.expiresAt * second ≤ result.expiresAt :=
      Int.ediv_mul_le _ second_pos.ne'
    constructor
    · rintro hagree (⟨hover, hannounced⟩ | ⟨hannounced, hunlisted⟩)
      · exact absurd (hagree.mpr hannounced).1 (not_le.mpr hover)
      · exact (hagree.mpr hannounced).2 hunlisted
    · intro hnot
      constructor
      · rintro ⟨hwithin, -⟩
        exact hwithin.trans hfloor
      · intro hannounced
        exact ⟨not_lt.mp fun hover => hnot (.inl ⟨hover, hannounced⟩),
          fun hunlisted => hnot (.inr ⟨hannounced, hunlisted⟩)⟩
  · intro harrives hsupplied hlisted
    obtain ⟨outcome, after, performed, hruns⟩ := exists_ends_verifyOTP
      (listed_of_reach hlater hlisted) (keysIssued_of_reach hlater) hsupplied
    obtain ⟨ended, hstepped, -⟩ :=
      exists_stepped harrives (runs_verifyOTP.mpr hruns)
    exact ⟨performed, outcome, ended, hstepped⟩

section Runs

/-- The history of a call. -/
def historyAt (pool : Pool) (id : ℕ) : History :=
  ((pool.calls.lookup id).map fun call => call.history).getD []

/-- A request in a service that has just started. -/
def announcing (clock : Time) : Pool :=
  served (deployment []) anyChoice (start clock) 0
    (.requestOTP Deployment.phone "203.0.113.7") (issuing 123456)

theorem announcing_stepped {clock : Time} {result : RequestOTPResult}
    (hresult : (outcomeAt (announcing clock) 0).bind requestResult =
      some result)
    (hcode : (Deployment.phone, "123456") ∈
      sentCodes (historyAt (announcing clock) 0)) :
    ∃ history,
      Stepped (deployment []) anyChoice (start clock) 0
        (.requestOTP Deployment.phone "203.0.113.7") history
        (.requestOTP (.ok result)) (announcing clock) ∧
      (Deployment.phone, "123456") ∈ sentCodes history := by
  obtain ⟨history, hstepped⟩ :=
    stepped_served rfl (outcome_of_bind eq_of_requestResult hresult)
  refine ⟨history, hstepped, ?_⟩
  rw [historyAt, announcing, hstepped.returned] at hcode
  exact hcode

theorem evening_announces :
    (outcomeAt (announcing evening) 0).bind requestResult =
        some ⟨evening + otpValidityDuration, otpRetryAfterSeconds⟩ ∧
      (Deployment.phone, "123456") ∈
        sentCodes (historyAt (announcing evening) 0) ∧
      (announcing evening).store.clock = evening ∧
      WithinLimits (announcing evening).store
        (hashPhone (deployment []) Deployment.phone) ∧
      (announcing evening).store.users.lookup
        (phoneSentinelKey Deployment.phone) = none ∧
      (outcomeAt (firstVerification (announcing evening)) 1).bind
          verifyResult =
        some (registrationResult (deployment []) Deployment.phone user session
          refreshA "33333333-3333-4333-8333-333333333333" evening) := by
  decide +kernel

/-- A code that was announced at a whole second is accepted at once. -/
theorem evening_honoured :
    ∃ performed tokens ended,
      Stepped (deployment []) Choice.unfaulted (announcing evening) 1
        (.verifyOTP Deployment.phone "123456" "device-1") performed
        (.verifyOTP (.ok tokens)) ended ∧
      (announcing evening).store.clock ≤ evening + otpValidityDuration := by
  obtain ⟨hresult, hcode, hclock, hlimits, hunreserved, hverified⟩ :=
    evening_announces
  obtain ⟨history, hrequest, hsent⟩ := announcing_stepped hresult hcode
  obtain ⟨performed, hverify⟩ := stepped_served (by decide +kernel)
    (outcome_of_bind eq_of_verifyResult hverified)
  have hiff := (announced_expiry_iff (deployment []) evening (start evening) _ _
    .refl _ _ "123456" "device-1" 0 1 history _ hrequest hsent .refl
    (by decide) hlimits).1 performed _ _ hverify
  have hnot : ¬ (CutOff (evening + otpValidityDuration)
        (announcing evening).store.clock ∨
      (announcing evening).store.clock ≤ evening + otpValidityDuration ∧
        Unlisted (announcing evening).store Deployment.phone) := by
    rintro (⟨hover, -⟩ | ⟨-, -, hreserved⟩)
    · rw [hclock] at hover
      exact absurd hover (by decide)
    · exact hreserved hunreserved
  exact ⟨performed, _, _, hverify, (hiff.mpr hnot).mp ⟨_, rfl⟩⟩

/-- Half a second after a whole one. -/
def lateEvening : Time := evening + 500000000

/-- A request at half a second, and nothing else until its code expires. -/
def expiring : Pool :=
  (machine (deployment [])).runTo (sparesPhone (deployment []) Deployment.phone)
    (announcing lateEvening)
    [.env (.tick (lateEvening + otpValidityDuration))]

/-- A verification that is refused. -/
def refused : Pool :=
  served (deployment []) Choice.unfaulted expiring 1
    (.verifyOTP Deployment.phone "123456" "device-1") [.ok, .ok, .ok, .ok]

theorem expiring_refused :
    (outcomeAt (announcing lateEvening) 0).bind requestResult =
        some ⟨lateEvening + otpValidityDuration, otpRetryAfterSeconds⟩ ∧
      (Deployment.phone, "123456") ∈
        sentCodes (historyAt (announcing lateEvening) 0) ∧
      expiring.store.clock = lateEvening + otpValidityDuration ∧
      WithinLimits expiring.store
        (hashPhone (deployment []) Deployment.phone) ∧
      (outcomeAt refused 1).bind verifyRefusal = some .errInvalidOTP := by
  decide +kernel

/-- A code that was announced at half a second is refused at its announced
expiry. -/
theorem lateEvening_cut_off :
    ∃ history result performed ended,
      Stepped (deployment []) anyChoice (start lateEvening) 0
        (.requestOTP Deployment.phone "203.0.113.7") history
        (.requestOTP (.ok result)) (announcing lateEvening) ∧
      (Deployment.phone, "123456") ∈ sentCodes history ∧
      (machine (deployment [])).Reach
        (sparesPhone (deployment []) Deployment.phone)
        (announcing lateEvening) expiring ∧
      WithinLimits expiring.store (hashPhone (deployment []) Deployment.phone) ∧
      expiring.store.clock ≤ result.expiresAt ∧
      Stepped (deployment []) Choice.unfaulted expiring 1
        (.verifyOTP Deployment.phone "123456" "device-1") performed
        (.verifyOTP (.error (.sentinel .errInvalidOTP))) ended := by
  obtain ⟨hresult, hcode, hclock, hlimits, hrefused⟩ := expiring_refused
  obtain ⟨history, hrequest, hsent⟩ := announcing_stepped hresult hcode
  obtain ⟨performed, hverify⟩ := stepped_served (by decide +kernel)
    (outcome_of_bind eq_of_verifyRefusal hrefused)
  exact ⟨history, _, performed, _, hrequest, hsent, Machine.reach_runTo _,
    hlimits, hclock.le, hverify⟩

end Runs

end MessagingPlatform.AnnouncedExpiry
