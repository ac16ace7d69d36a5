import MessagingPlatform.App.RequestRules

/-!
# The outcomes of a code request

What the two limits of `RequestOTP` decide: each outcome with the requests that
led to it.  The counter of the phone is charged before that of the address is
looked at.
-/

namespace MessagingPlatform.RequestOutcomes

open Program
open Instants
open Errors
open Records
open Identifiers
open Primitives
open Tables
open Operations
open Stores
open StoreRules
open Flows

/-- The charge of the phone. -/
def phoneEval (phoneHash : String) : Op :=
  .redisEval (.otpReqPhone phoneHash) (wholeSeconds otpRateLimitWindow)

/-- The charge of the address. -/
def ipEval (clientIP : String) : Op :=
  .redisEval (.otpReqIP clientIP) (wholeSeconds otpRateLimitWindow)

variable (cfg : AuthServiceConfig) (phone clientIP : String)

/-- The outcomes of a code request, each with all that it has performed. -/
inductive RequestOutcome :
    History → Except GoError RequestOTPResult → Prop
  | invalid (err : GoError) (hinvalid : newPhoneNumber phone = .error err) :
      RequestOutcome [] (.error err)
  | unavailable (cause err : GoError) :
      RequestOutcome [⟨phoneEval (hashPhone cfg phone), .error cause⟩]
        (.error (unavailable "check phone rate limit: %w" err))
  | phoneLimited (count : ℕ) (hcount : otpRequestRateLimitPerPhone < count) :
      RequestOutcome [⟨phoneEval (hashPhone cfg phone), .ok count⟩]
        (.error (.sentinel .errPhoneRateLimited))
  | ipLimited (count ipCount : ℕ)
      (hcount : count ≤ otpRequestRateLimitPerPhone)
      (hipCount : otpRequestRateLimitPerIP < ipCount) :
      RequestOutcome [⟨ipEval clientIP, .ok ipCount⟩,
          ⟨phoneEval (hashPhone cfg phone), .ok count⟩]
        (.error (.sentinel .errIPRateLimited))
  | passed (count : ℕ) (response : Op.Res (ipEval clientIP)) (added : History)
      (outcome : Except GoError RequestOTPResult)
      (hcount : count ≤ otpRequestRateLimitPerPhone)
      (hresponse : ∀ ipCount, response = .ok ipCount →
        ipCount ≤ otpRequestRateLimitPerIP)
      (hother : ∀ sentinel, outcome ≠ .error (.sentinel sentinel)) :
      RequestOutcome (added ++ [⟨ipEval clientIP, response⟩,
        ⟨phoneEval (hashPhone cfg phone), .ok count⟩]) outcome

variable {cfg phone clientIP}

/-- Any request. -/
def anyRequest (_ : History) (_ : Op) : Prop := True

theorem sat_limits {post : History → Except GoError Unit → Prop}
    (hunavailable : ∀ cause err,
      post [⟨phoneEval (hashPhone cfg phone), .error cause⟩]
        (.error (unavailable "check phone rate limit: %w" err)))
    (hphone : ∀ count, otpRequestRateLimitPerPhone < count →
      post [⟨phoneEval (hashPhone cfg phone), .ok count⟩]
        (.error (.sentinel .errPhoneRateLimited)))
    (hip : ∀ count ipCount, count ≤ otpRequestRateLimitPerPhone →
      otpRequestRateLimitPerIP < ipCount →
      post [⟨ipEval clientIP, .ok ipCount⟩,
          ⟨phoneEval (hashPhone cfg phone), .ok count⟩]
        (.error (.sentinel .errIPRateLimited)))
    (hpassed : ∀ count (response : Op.Res (ipEval clientIP)),
      count ≤ otpRequestRateLimitPerPhone →
      (∀ ipCount, response = .ok ipCount →
        ipCount ≤ otpRequestRateLimitPerIP) →
      post [⟨ipEval clientIP, response⟩,
        ⟨phoneEval (hashPhone cfg phone), .ok count⟩] (.ok ())) :
    Sat anyRequest post
      (checkRequestRateLimits (hashPhone cfg phone) clientIP).run [] := by
  unfold checkRequestRateLimits
  rw [sat_run_bind, sat_wrapError]
  apply sat_checkAndIncrement trivial
  · exact hunavailable
  · intro count
    by_cases hcount : count ≤ otpRequestRateLimitPerPhone
    · simp only [hcount, decide_true, Except.mapError, Bool.not_true,
        Bool.false_eq_true, if_false]
      rw [sat_run_bind, sat_attempt]
      apply sat_checkAndIncrement trivial
      · intro cause err
        exact hpassed count (.error cause) hcount fun ipCount hok => by
          cases hok
      · intro ipCount
        by_cases hipCount : ipCount ≤ otpRequestRateLimitPerIP
        · simp only [hipCount, decide_true, Bool.not_true, Bool.false_eq_true,
            if_false]
          refine hpassed count (.ok ipCount) hcount fun found hok => ?_
          cases hok
          exact hipCount
        · simp only [hipCount, decide_false, Bool.not_false, if_true]
          exact hip count ipCount hcount (not_le.mp hipCount)
    · simp only [hcount, decide_false, Except.mapError, Bool.not_false,
        if_true]
      exact hphone count (not_le.mp hcount)

theorem sat_existing {phoneHash : String} {reached : History} :
    Sat anyRequest (fun _ outcome => ∀ sentinel,
        outcome ≠ .error (.sentinel sentinel))
      (existingOTP phoneHash).run reached := by
  unfold existingOTP
  rw [sat_run_bind, sat_wrapError]
  apply sat_getOTP trivial
  · intro cause err sentinel heq
    cases heq
  · intro err sentinel heq
    cases heq
  · intro item
    dsimp only [Except.mapError]
    split
    · intro sentinel heq
      cases heq
    · intro sentinel heq
      cases heq

/-- Every code request ends in one of its outcomes. -/
theorem sat_outcome :
    Sat anyRequest (RequestOutcome cfg phone clientIP)
      (requestOTP cfg phone clientIP).run [] := by
  unfold requestOTP
  split
  · next err hinvalid => exact .invalid err hinvalid
  rw [sat_run_bind]
  apply sat_limits
  · intro cause err
    exact .unavailable cause err
  · intro count hcount
    exact .phoneLimited count hcount
  · intro count ipCount hcount hipCount
    exact .ipLimited count ipCount hcount hipCount
  intro count response hcount hresponse
  dsimp only
  -- What follows the limits only adds to the history, and fails with wrapped
  -- errors.
  refine Sat.mono (Sat.extends (?_ : Sat anyRequest (fun _ outcome =>
    ∀ sentinel, outcome ≠ .error (.sentinel sentinel)) _ _)) ?_
  · rw [sat_run_bind, sat_wrapError]
    apply sat_generateOTP trivial
    · intro cause err sentinel heq
      cases heq
    intro number
    dsimp only [Except.mapError]
    rw [sat_run_bind, sat_request]
    refine ⟨trivial, fun issuedAt => ?_⟩
    dsimp only
    rw [sat_run_bind, sat_attempt]
    apply sat_createOTP trivial (fun _ => trivial)
    · intro putAt cause err
      dsimp only
      split
      · exact sat_existing
      · intro sentinel heq
        cases heq
    · intro putAt
      dsimp only
      rw [sat_run_bind, sat_request]
      refine ⟨trivial, fun sent => ?_⟩
      intro sentinel heq
      cases heq
  · rintro reached outcome ⟨hother, added, rfl⟩
    exact .passed count response added outcome hcount hresponse hother

end MessagingPlatform.RequestOutcomes
