import MessagingPlatform.Adapter.AllowedRequests
import MessagingPlatform.Adapter.StoreSteps
import MessagingPlatform.App.Flows

/-!
# Codes requested and redeemed in one step

`RequestOTP` and the checks of `VerifyOTP` when nothing happens in between:
what the record of the phone has to be for a candidate to be accepted, and what
a request for a code answers.
-/

namespace MessagingPlatform.FlowSteps

open Program
open OneStep
open Instants
open Errors
open Records
open Identifiers
open Primitives
open Tables
open Operations
open Effects
open Stores
open AllowedRequests
open StoreSteps
open Flows

/-- A record against which a candidate is checked: pending, with attempts left
and not expired. -/
structure Open (store : Store) (phoneHash : String) (item : OTPItem) :
    Prop where
  stored : store.otpRequests.lookup phoneHash = some item
  pending : item.status = .pending
  attempts : item.attemptCount < maxOTPVerifyAttempts
  unexpired : ∃ expiry, parse item.expiresAt = some expiry ∧
    store.clock ≤ expiry

/-- The MAC of the candidate is the stored one. -/
def Matches (cfg : AuthServiceConfig) (otpCandidate phoneHash : String)
    (item : OTPItem) : Prop :=
  computeOTPMAC cfg otpCandidate phoneHash item.expiresAt.render = item.otpMAC

variable {cfg : AuthServiceConfig} {permits : Choice → Prop}
variable {before after : Store} {phoneHash otpCandidate : String}

section Validation

theorem certain_readOTPRecord {item : OTPItem}
    (hitem : before.otpRequests.lookup phoneHash = some item) :
    Certain (steps cfg) (readOTPRecord phoneHash).run before
      (.ok (fromOTPItem phoneHash item)) before := by
  unfold readOTPRecord
  exact (certain_attempt (certain_getOTP hitem)).run_bind_certain
    certain_run_pure

/-- The comparison of the MACs is reached. -/
theorem Open.ends_iff {item : OTPItem} (hopen : Open before phoneHash item)
    {outcome : Except GoError OTPRecord} :
    Ends (steps cfg) (validateOTPRecord phoneHash otpCandidate).run before
        outcome after ↔
      Ends (steps cfg)
        (if computeOTPMAC cfg otpCandidate phoneHash item.expiresAt.render ==
            item.otpMAC then
          pure (fromOTPItem phoneHash item)
        else do
          let _ ← attempt (incrementAttempts phoneHash)
          throw (.sentinel .errInvalidOTP) : Flow OTPRecord).run before outcome
        after := by
  obtain ⟨hstored, hpending, hattempts, expiry, hparse, hclock⟩ := hopen
  have hnow : Certain (steps cfg) (request .clockNow).run before
      (.ok before.clock) before := certain_request fun _ => rfl
  have hcompare : Certain (steps cfg)
      (request (.verifyOTPMAC otpCandidate phoneHash item.expiresAt
        item.otpMAC)).run before
      (.ok (verifyOTPMAC cfg otpCandidate phoneHash item.expiresAt.render
        item.otpMAC)) before := certain_request fun _ => rfl
  unfold validateOTPRecord
  rw [(certain_readOTPRecord hstored).run_bind]
  have hstatus : ¬ (fromOTPItem phoneHash item).status = .verified := by
    simp [fromOTPItem, hpending]
  have hcount : ¬ (fromOTPItem phoneHash item).attemptCount ≥
      maxOTPVerifyAttempts := not_le.mpr hattempts
  have hexpiry : parse (fromOTPItem phoneHash item).expiresAt = some expiry :=
    hparse
  rw [if_neg hstatus, if_neg hcount]
  simp only [hexpiry]
  rw [hnow.run_bind, if_neg (not_lt.mpr hclock)]
  exact hcompare.run_bind

theorem certain_validateOTPRecord {item : OTPItem}
    (hopen : Open before phoneHash item)
    (hmatches : Matches cfg otpCandidate phoneHash item) :
    Certain (steps cfg) (validateOTPRecord phoneHash otpCandidate).run before
      (.ok (fromOTPItem phoneHash item)) before := by
  intro outcome reached
  rw [hopen.ends_iff, if_pos (beq_iff_eq.mpr hmatches)]
  exact certain_run_pure outcome reached

/-- A wrong candidate costs an attempt. -/
theorem certain_validateOTPRecord_of_wrong {item : OTPItem}
    (hopen : Open before phoneHash item)
    (hwrong : ¬ Matches cfg otpCandidate phoneHash item) :
    Certain (steps cfg) (validateOTPRecord phoneHash otpCandidate).run before
      (.error (.sentinel .errInvalidOTP))
      { before with
        otpRequests := before.otpRequests.insert phoneHash
          { item with attemptCount := item.attemptCount + 1 } } := by
  intro outcome reached
  rw [hopen.ends_iff, if_neg (mt beq_iff_eq.mp hwrong)]
  exact ((certain_attempt (certain_incrementAttempts hopen.stored))
    |>.run_bind_certain certain_run_throw) outcome reached

/-- A read that succeeds returns the stored record, whatever may fail. -/
theorem stored_of_getOTP {record : OTPRecord}
    (hends : Ends (performs cfg permits) (getOTP phoneHash).run before
      (.ok record) after) :
    after = before ∧ ∃ item,
      before.otpRequests.lookup phoneHash = some item ∧
        record = fromOTPItem phoneHash item := by
  obtain ⟨response, middle, ⟨choice, -, hperform⟩, hrest⟩ :=
    ends_request_bind.mp hends
  have hanswer := answers_of_perform hperform
  have heffect := effect_of_perform hperform
  rcases response with err | (_ | item)
  · cases ((certain_run_throw _ _).mp hrest).1
  · cases ((certain_run_throw _ _).mp hrest).1
  · obtain ⟨hrecord, rfl⟩ := (certain_run_pure _ _).mp hrest
    cases hrecord
    cases heffect
    exact ⟨rfl, item, hanswer.symm, rfl⟩

/-- Only a matching candidate for an open record is accepted, whatever may
fail. -/
theorem open_of_validateOTPRecord {record : OTPRecord}
    (hends : Ends (performs cfg permits)
      (validateOTPRecord phoneHash otpCandidate).run before (.ok record)
      after) :
    after = before ∧ ∃ item, Open before phoneHash item ∧
      Matches cfg otpCandidate phoneHash item ∧
      record = fromOTPItem phoneHash item := by
  unfold validateOTPRecord readOTPRecord at hends
  obtain ⟨found, read, hread, hrest⟩ := ends_run_bind_ok.mp hends
  obtain ⟨answer, middle, hattempt, hfound⟩ := ends_run_bind_ok.mp hread
  obtain ⟨inner, hget, hinner⟩ := ends_attempt.mp hattempt
  cases hinner
  cases answer with
  | error err =>
      dsimp only at hfound
      split at hfound
      · cases ((certain_run_throw _ _).mp hfound).1
      · cases ((certain_run_throw _ _).mp hfound).1
  | ok loaded =>
      obtain ⟨hloaded, rfl⟩ := (certain_run_pure _ _).mp hfound
      cases hloaded
      obtain ⟨rfl, item, hstored, rfl⟩ := stored_of_getOTP hget
      split at hrest
      · cases ((certain_run_throw _ _).mp hrest).1
      next hpending =>
      split at hrest
      · obtain ⟨_, _, -, hthrown⟩ := ends_run_bind_ok.mp hrest
        cases ((certain_run_throw _ _).mp hthrown).1
      next hattempts =>
      split at hrest
      · cases ((certain_run_throw _ _).mp hrest).1
      next expiry hparse =>
      obtain ⟨now, clocked, ⟨choice, -, hperform⟩, hrest⟩ :=
        ends_request_bind.mp hrest
      have hnow : now = read.clock := answers_of_perform hperform
      cases effect_of_perform hperform
      split at hrest
      · cases ((certain_run_throw _ _).mp hrest).1
      next hclock =>
      obtain ⟨matched, compared, ⟨choice, -, hperform⟩, hrest⟩ :=
        ends_request_bind.mp hrest
      have hmatched := answers_of_perform hperform
      cases effect_of_perform hperform
      split at hrest
      · next htrue =>
          obtain ⟨hrecord, rfl⟩ := (certain_run_pure _ _).mp hrest
          cases hrecord
          have hstatus : item.status = .pending := by
            cases hstatus : item.status with
            | pending => rfl
            | verified => exact (hpending hstatus).elim
          exact ⟨rfl, item, ⟨hstored, hstatus, not_le.mp hattempts, expiry,
            hparse, hnow ▸ not_lt.mp hclock⟩,
            beq_iff_eq.mp (hmatched.symm.trans htrue), rfl⟩
      · obtain ⟨_, _, -, hthrown⟩ := ends_run_bind_ok.mp hrest
        cases ((certain_run_throw _ _).mp hthrown).1

end Validation

section Requests

variable {phone clientIP : String}

/-- The requests before a record is written: limiter, random number, clock. -/
def preparing : Op → Prop
  | .redisEval _ _ => True
  | .randInt _ => True
  | .clockNow => True
  | _ => False

theorem only_checkRequestRateLimits :
    Only preparing (checkRequestRateLimits phoneHash clientIP) := by
  unfold checkRequestRateLimits
  refine Only.bind (Only.wrapError (only_checkAndIncrement trivial))
    fun allowed => ?_
  split
  · exact only_throw _
  refine Only.bind (Only.attempt (only_checkAndIncrement trivial)) ?_
  rintro (err | ipAllowed)
  · exact only_pure _
  · dsimp only
    split
    · exact only_throw _
    · exact only_pure _

/-- They leave the records and the clock alone. -/
theorem keeps_of_preparing {op : Op} {response : op.Res}
    (hop : preparing op)
    (hperforms : performs cfg permits op before response after) :
    after.otpRequests = before.otpRequests ∧ after.clock = before.clock := by
  obtain ⟨choice, -, hperform⟩ := hperforms
  cases effect_of_perform hperform with
  | unchanged | counted => exact ⟨rfl, rfl⟩
  | _ => exact hop.elim

/-- A flow that only prepares. -/
theorem keeps_of_only {A : Type} {flow : Flow A} {outcome : Except GoError A}
    {trace : History} (honly : Only preparing flow)
    (hruns : Runs (performs cfg permits) flow.run before trace outcome after) :
    (after.otpRequests = before.otpRequests ∧ after.clock = before.clock) ∧
      ∀ entry ∈ trace, preparing entry.1 := by
  refine hruns.keeps (I := fun store =>
    store.otpRequests = before.otpRequests ∧ store.clock = before.clock)
    (honly []) ?_ ⟨rfl, rfl⟩
  intro op state response next hop hperforms hstate
  obtain ⟨hrecords, hclock⟩ := keeps_of_preparing hop hperforms
  exact ⟨hrecords.trans hstate.1, hclock.trans hstate.2⟩

/-- The write of a record, whatever may fail: it goes through if the record in
its place is replaceable, and reports a conflict only if that is not. -/
theorem written_of_createOTP {record : OTPRecord}
    {outcome : Except GoError Unit}
    (hends : Ends (performs cfg permits) (createOTP record).run before outcome
      after) :
    (outcome = .ok () →
      otpReplaceable (format before.clock)
        (before.otpRequests.lookup record.phoneHash) = true ∧
      after = { before with
        otpRequests := before.otpRequests.insert record.phoneHash
          (toOTPItem record) }) ∧
    ∀ err, outcome = .error err → after = before ∧
      (errorsIs .errAlreadyExists err = true →
        otpReplaceable (format before.clock)
          (before.otpRequests.lookup record.phoneHash) = false) := by
  unfold createOTP at hends
  obtain ⟨now, clocked, ⟨choice, -, hperform⟩, hrest⟩ :=
    ends_request_bind.mp hends
  have hnow : now = before.clock := answers_of_perform hperform
  cases effect_of_perform hperform
  obtain ⟨response, middle, ⟨choice, -, hperform⟩, hrest⟩ :=
    ends_request_bind.mp hrest
  rw [hnow] at hperform
  cases response with
  | ok done =>
      obtain ⟨rfl, rfl⟩ := (certain_run_pure _ _).mp hrest
      refine ⟨fun _ => ?_, fun _ heq => by cases heq⟩
      cases effect_of_perform hperform with
      | unchanged hkeeps => cases hkeeps
      | otpPut _ _ _ hreplaceable => exact ⟨hreplaceable, rfl⟩
  | error cause =>
      have hsame : middle = before := by
        cases effect_of_perform hperform
        rfl
      subst hsame
      cases cause with
      | conditionalCheckFailed =>
          obtain ⟨rfl, rfl⟩ := (certain_run_throw _ _).mp hrest
          refine ⟨fun heq => (by cases heq), fun err _ => ⟨rfl, fun _ => ?_⟩⟩
          rw [← Bool.not_eq_true]
          intro hreplaceable
          cases choice <;>
            simp [perform, effect, Op.failure, Op.cancellation, hreplaceable]
              at hperform
      | transactionCanceled | failure =>
          obtain ⟨rfl, rfl⟩ := (certain_run_throw _ _).mp hrest
          refine ⟨fun heq => (by cases heq), fun err heq => ⟨rfl, ?_⟩⟩
          cases heq
          exact fun hexists => by cases hexists

/-- The codes handed to the sender, with their recipients, newest first. -/
def sentCodes (trace : History) : List (String × String) :=
  trace.filterMap fun
    | ⟨.sendOTP recipient otp, _⟩ => some (recipient, otp)
    | _ => none

theorem sentCodes_append (newer older : History) :
    sentCodes (newer ++ older) = sentCodes newer ++ sentCodes older :=
  List.filterMap_append

def sends : Op → Bool
  | .sendOTP _ _ => true
  | _ => false

theorem sentCodes_eq_nil {trace : History}
    (hquiet : ∀ entry ∈ trace, sends entry.1 = false) :
    sentCodes trace = [] := by
  rw [sentCodes, List.filterMap_eq_nil_iff]
  rintro ⟨op, response⟩ hentry
  have hop : sends op = false := hquiet _ hentry
  cases op with
  | sendOTP recipient otp => cases hop
  | _ => rfl

theorem sentCodes_of_preparing {trace : History}
    (hpreparing : ∀ entry ∈ trace, preparing entry.1) :
    sentCodes trace = [] := by
  refine sentCodes_eq_nil fun entry hentry => ?_
  obtain ⟨op, response⟩ := entry
  have hop : preparing op := hpreparing _ hentry
  cases op with
  | sendOTP recipient otp => exact hop.elim
  | _ => rfl

/-- A flow that sends nothing. -/
theorem sentCodes_of_only {A : Type} {flow : Flow A}
    {outcome : Except GoError A} {trace : History}
    (honly : Only (fun op => sends op = false) flow)
    (hruns : Runs (performs cfg permits) flow.run before trace outcome after) :
    sentCodes trace = [] :=
  sentCodes_eq_nil (hruns.keeps (I := fun _ => True) (honly [])
    (fun _ _ _ _ _ _ _ => trivial) trivial).2

/-- The request has stored a record of its own, for the code it has sent. -/
structure Issued (cfg : AuthServiceConfig) (before after : Store)
    (phone otp : String) (trace : History) (result : RequestOTPResult) :
    Prop where
  replaceable : otpReplaceable (format before.clock)
    (before.otpRequests.lookup (hashPhone cfg phone)) = true
  stored : after.otpRequests =
    before.otpRequests.insert (hashPhone cfg phone)
      (toOTPItem (newOTPRecord cfg otp (hashPhone cfg phone) before.clock))
  sent : sentCodes trace = [(phone, otp)]
  expiresAt : result.expiresAt = before.clock + otpValidityDuration

/-- The request has answered with the expiry of the record it has found. -/
structure Repeated (cfg : AuthServiceConfig) (before after : Store)
    (phone : String) (item : OTPItem) (trace : History)
    (result : RequestOTPResult) : Prop where
  found : before.otpRequests.lookup (hashPhone cfg phone) = some item
  active : otpReplaceable (format before.clock) (some item) = false
  kept : after.otpRequests = before.otpRequests
  sent : sentCodes trace = []
  expiresAt : parse item.expiresAt = some result.expiresAt

theorem repeated_of_existingOTP {trace : History} {result : RequestOTPResult}
    (hruns : Runs (performs cfg permits) (existingOTP phoneHash).run before
      trace (.ok result) after) :
    after = before ∧ sentCodes trace = [] ∧ ∃ item,
      before.otpRequests.lookup phoneHash = some item ∧
      parse item.expiresAt = some result.expiresAt := by
  have hsent : sentCodes trace = [] := by
    refine sentCodes_of_only (Only.bind (Only.wrapError (only_getOTP rfl))
      fun existing => ?_) hruns
    split
    · exact only_throw _
    · exact only_pure _
  unfold existingOTP at hruns
  obtain ⟨existing, middle, hget, hrest⟩ :=
    ends_run_bind_ok.mp ⟨trace, hruns⟩
  obtain ⟨inner, hinner, hwrapped⟩ := ends_wrapError.mp hget
  cases inner with
  | error err => cases hwrapped
  | ok record =>
      cases hwrapped
      obtain ⟨rfl, item, hitem, rfl⟩ := stored_of_getOTP hinner
      split at hrest
      · cases ((certain_run_throw _ _).mp hrest).1
      · next expiry hparse =>
          obtain ⟨hresult, rfl⟩ := (certain_run_pure _ _).mp hrest
          cases hresult
          exact ⟨rfl, hsent, item, hitem, hparse⟩

/-- The end of `RequestOTP`: store the record and send the code, or return the
expiry of the record in its place. -/
def storeOrRepeat (cfg : AuthServiceConfig) (phone otp : String) (now : Time) :
    Flow RequestOTPResult := do
  match ← attempt (createOTP (newOTPRecord cfg otp (hashPhone cfg phone)
      now)) with
  | .error err =>
      if errorsIs .errAlreadyExists err then existingOTP (hashPhone cfg phone)
      else throw (wrapped "create OTP: %w" err)
  | .ok () =>
      let _ ← request (.sendOTP phone otp)
      return ⟨now + otpValidityDuration, otpRetryAfterSeconds⟩

theorem answer_of_storeOrRepeat {otp : String} {trace : History}
    {result : RequestOTPResult}
    (hruns : Runs (performs cfg permits)
      (storeOrRepeat cfg phone otp before.clock).run before trace (.ok result)
      after) :
    Issued cfg before after phone otp trace result ∨
      ∃ item, Repeated cfg before after phone item trace result := by
  unfold storeOrRepeat at hruns
  obtain ⟨answer, written, writes, rest, hwrites, hrest, rfl⟩ :=
    runs_run_bind_ok.mp hruns
  have hunsent : sentCodes writes = [] :=
    sentCodes_of_only (Only.attempt (only_createOTP rfl fun _ => rfl)) hwrites
  obtain ⟨inner, hcreate, heq⟩ := ends_attempt.mp ⟨_, hwrites⟩
  cases heq
  obtain ⟨hok, herror⟩ := written_of_createOTP hcreate
  cases answer with
  | error err =>
      obtain ⟨rfl, hactive⟩ := herror err rfl
      dsimp only at hrest
      split at hrest
      · next hconflict =>
          obtain ⟨rfl, hquiet, item, hitem, hparse⟩ :=
            repeated_of_existingOTP hrest
          have hblocked := hactive hconflict
          rw [show (newOTPRecord cfg otp (hashPhone cfg phone)
            after.clock).phoneHash = hashPhone cfg phone from rfl, hitem]
            at hblocked
          refine .inr ⟨item, hitem, hblocked, rfl, ?_, hparse⟩
          rw [sentCodes_append, hquiet, hunsent]
          rfl
      · cases ((certain_run_throw _ _).mp ⟨_, hrest⟩).1
  | ok done =>
      obtain ⟨hreplaceable, rfl⟩ := hok rfl
      obtain ⟨delivered, reached, send, last, hsend, hlast, rfl⟩ :=
        runs_run_bind_ok.mp hrest
      obtain ⟨rfl, hresult, rfl⟩ := hlast
      cases hresult
      obtain ⟨response, middle, none, ⟨choice, -, hperform⟩,
        ⟨rfl, -, rfl⟩, rfl⟩ := hsend
      refine .inl ⟨hreplaceable, ?_, ?_, rfl⟩
      · cases effect_of_perform hperform
        rfl
      · rw [sentCodes_append, sentCodes_append, hunsent]
        rfl

/-- What a request for a code that succeeds has done, whatever may fail. -/
theorem answer_of_requestOTP {trace : History} {result : RequestOTPResult}
    (hruns : Runs (performs cfg permits) (requestOTP cfg phone clientIP).run
      before trace (.ok result) after) :
    (∃ otp, Issued cfg before after phone otp trace result) ∨
      ∃ item, Repeated cfg before after phone item trace result := by
  unfold requestOTP at hruns
  split at hruns
  · cases ((certain_run_throw _ _).mp ⟨_, hruns⟩).1
  obtain ⟨done, limited, limits, trace₁, hlimits, hrest₁, rfl⟩ :=
    runs_run_bind_ok.mp hruns
  obtain ⟨⟨hrecords₁, hclock₁⟩, hquiet₁⟩ :=
    keeps_of_only only_checkRequestRateLimits hlimits
  obtain ⟨otp, drawn, draws, trace₂, hdraws, hrest₂, rfl⟩ :=
    runs_run_bind_ok.mp hrest₁
  obtain ⟨⟨hrecords₂, hclock₂⟩, hquiet₂⟩ :=
    keeps_of_only (Only.wrapError (only_generateOTP trivial)) hdraws
  obtain ⟨now, clocked, reads, trace₃, hreads, hrest₃, rfl⟩ :=
    runs_run_bind_ok.mp hrest₂
  obtain ⟨⟨hrecords₃, hclock₃⟩, hquiet₃⟩ :=
    keeps_of_only (show Only preparing (request .clockNow) from
      only_request trivial) hreads
  obtain ⟨read, ⟨choice, -, hperform⟩, heq⟩ := ends_request.mp ⟨_, hreads⟩
  cases heq
  have hnow : now = clocked.clock :=
    (answers_of_perform hperform).trans hclock₃.symm
  subst hnow
  have hrecords : clocked.otpRequests = before.otpRequests :=
    hrecords₃.trans (hrecords₂.trans hrecords₁)
  have hclock : clocked.clock = before.clock :=
    hclock₃.trans (hclock₂.trans hclock₁)
  have hsent : sentCodes (trace₃ ++ reads ++ draws ++ limits) =
      sentCodes trace₃ := by
    rw [sentCodes_append, sentCodes_append, sentCodes_append,
      sentCodes_of_preparing hquiet₁, sentCodes_of_preparing hquiet₂,
      sentCodes_of_preparing hquiet₃]
    simp
  rcases answer_of_storeOrRepeat hrest₃ with hissued | ⟨item, hrepeated⟩
  · obtain ⟨hreplaceable, hstored, hcode, hexpiry⟩ := hissued
    rw [hclock, hrecords] at hreplaceable hstored
    exact .inl ⟨otp, hreplaceable, hstored, hsent.trans hcode,
      by rw [hexpiry, hclock]⟩
  · obtain ⟨hfound, hactive, hkept, hcode, hexpiry⟩ := hrepeated
    rw [hrecords] at hfound hkept
    rw [hclock] at hactive
    exact .inr ⟨item, hfound, hactive, hkept, hsent.trans hcode, hexpiry⟩

end Requests

end MessagingPlatform.FlowSteps
