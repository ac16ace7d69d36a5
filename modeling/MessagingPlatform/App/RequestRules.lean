import MessagingPlatform.Adapter.StoreRules
import MessagingPlatform.App.Flows

/-!
# What a code request does

The guard of `RequestOTP`: it counts the request, draws a code, and writes one
record whose MAC and expiry come from that code and one clock reading.
-/

namespace MessagingPlatform.RequestRules

open Program
open Instants
open Errors
open Records
open Primitives
open Tables
open Operations
open Stores
open StoreRules
open Flows

/-- A code about to be stored: the number drawn, the time its validity is
counted from, and the time the condition of the write is evaluated with. -/
structure Issue where
  number : ℕ
  issuedAt : Time
  putAt : Time

/-- The history of a request that is about to store its code.  The counters
come first. -/
def Issue.entries (issue : Issue) (counted : History) : History :=
  ⟨.clockNow, issue.putAt⟩ :: ⟨.clockNow, issue.issuedAt⟩ ::
    ⟨.randInt otpMax, .ok issue.number⟩ :: counted

/-- The two counters of a request, passed. -/
def Counted (phoneHash clientIP : String) (counted : History) : Prop :=
  ∃ (count : ℕ) (response : _), count ≤ otpRequestRateLimitPerPhone ∧
    counted =
      [⟨.redisEval (.otpReqIP clientIP) (wholeSeconds otpRateLimitWindow),
          response⟩,
        ⟨.redisEval (.otpReqPhone phoneHash)
          (wholeSeconds otpRateLimitWindow), .ok count⟩]

variable (cfg : AuthServiceConfig) (phone clientIP : String)

/-- The item a request stores. -/
def Issue.item (issue : Issue) : OTPItem :=
  toOTPItem (newOTPRecord cfg (formatOTP issue.number) (hashPhone cfg phone)
    issue.issuedAt)

/-- The requests of `RequestOTP` and the histories it makes them in. -/
def requestGuard (older : History) : Op → Prop
  | .redisEval key windowSeconds =>
      windowSeconds = wholeSeconds otpRateLimitWindow ∧
        (key = .otpReqPhone (hashPhone cfg phone) ∧ older = [] ∨
          key = .otpReqIP clientIP)
  | .randInt bound =>
      bound = otpMax ∧ Counted (hashPhone cfg phone) clientIP older
  | .otpPutItem phoneHash item now => ∃ (issue : Issue) (counted : History),
      phoneHash = hashPhone cfg phone ∧ item = issue.item cfg phone ∧
        now = format issue.putAt ∧
        Counted (hashPhone cfg phone) clientIP counted ∧
        older = issue.entries counted
  | .otpGetItem phoneHash =>
      phoneHash = hashPhone cfg phone ∧
        ∃ (issue : Issue) (counted : History) (response : _),
          Counted (hashPhone cfg phone) clientIP counted ∧
          older = ⟨.otpPutItem (hashPhone cfg phone) (issue.item cfg phone)
            (format issue.putAt), .error response⟩ :: issue.entries counted
  | .sendOTP recipient otp => recipient = phone ∧
      ∃ (issue : Issue) (counted : History), otp = formatOTP issue.number ∧
        Counted (hashPhone cfg phone) clientIP counted ∧
        older = ⟨.otpPutItem (hashPhone cfg phone) (issue.item cfg phone)
          (format issue.putAt), .ok ()⟩ :: issue.entries counted
  | .clockNow => True
  | _ => False

variable {cfg phone clientIP}

theorem sat_checkRequestRateLimits
    {post : History → Except GoError Unit → Prop}
    (herror : ∀ reached err, post reached (.error err))
    (hok : ∀ counted, Counted (hashPhone cfg phone) clientIP counted →
      post counted (.ok ())) :
    Sat (requestGuard cfg phone clientIP) post
      (checkRequestRateLimits (hashPhone cfg phone) clientIP).run [] := by
  unfold checkRequestRateLimits
  rw [sat_run_bind, sat_wrapError]
  apply sat_checkAndIncrement
  · exact ⟨rfl, Or.inl ⟨rfl, rfl⟩⟩
  · intro cause err
    exact herror _ _
  · intro count
    by_cases hcount : count ≤ otpRequestRateLimitPerPhone
    · simp only [hcount, decide_true, Except.mapError, Bool.not_true,
        Bool.false_eq_true, if_false]
      rw [sat_run_bind, sat_attempt]
      apply sat_checkAndIncrement
      · exact ⟨rfl, Or.inr rfl⟩
      · intro cause err
        exact hok _ ⟨count, .error cause, hcount, rfl⟩
      · intro ipCount
        dsimp only
        split
        · exact herror _ _
        · exact hok _ ⟨count, .ok ipCount, hcount, rfl⟩
    · simp only [hcount, decide_false, Except.mapError, Bool.not_false,
        if_true]
      exact herror _ _

theorem sat_existingOTP {reached : History}
    (hguard : requestGuard cfg phone clientIP reached
      (.otpGetItem (hashPhone cfg phone))) :
    Sat (requestGuard cfg phone clientIP) (fun _ _ => True)
      (existingOTP (hashPhone cfg phone)).run reached := by
  unfold existingOTP
  rw [sat_run_bind, sat_wrapError]
  apply sat_getOTP
  · exact hguard
  · intro cause err
    trivial
  · intro err
    trivial
  · intro item
    dsimp only [Except.mapError]
    split <;> trivial

/-- Every request of a code request is one that its guard describes. -/
theorem sat_requestOTP :
    Sat (requestGuard cfg phone clientIP) (fun _ _ => True)
      (requestOTP cfg phone clientIP).run [] := by
  unfold requestOTP
  split
  · trivial
  rw [sat_run_bind]
  apply sat_checkRequestRateLimits
  · intro reached err
    trivial
  intro counted hcounted
  dsimp only
  rw [sat_run_bind, sat_wrapError]
  apply sat_generateOTP
  · exact ⟨rfl, hcounted⟩
  · intro cause err
    trivial
  intro number
  dsimp only [Except.mapError]
  rw [sat_run_bind, sat_request]
  refine ⟨trivial, fun issuedAt => ?_⟩
  dsimp only
  rw [sat_run_bind, sat_attempt]
  apply sat_createOTP
  · trivial
  · intro putAt
    exact ⟨⟨number, issuedAt, putAt⟩, counted, rfl, rfl, rfl, hcounted, rfl⟩
  · intro putAt cause err
    dsimp only
    split
    · apply sat_existingOTP
      exact ⟨rfl, ⟨number, issuedAt, putAt⟩, counted, cause, hcounted, rfl⟩
    · trivial
  · intro putAt
    dsimp only
    rw [sat_run_bind, sat_request]
    refine ⟨⟨rfl, ⟨number, issuedAt, putAt⟩, counted, rfl, hcounted, rfl⟩, ?_⟩
    intro response
    trivial

end MessagingPlatform.RequestRules
