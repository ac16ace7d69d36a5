import MessagingPlatform.Adapter.AllowedRequests
import MessagingPlatform.App.RequestOutcomes
import MessagingPlatform.System.Service

/-!
# The branches for timestamps that do not parse

Three flows parse the expiry of a record they have just read and give up with
an error of their own if they cannot.  A flow whose reads all returned records
with a timestamp never ends there.
-/

namespace MessagingPlatform.ParseFailures

open Program
open Instants
open Errors
open Records
open Identifiers
open Primitives
open Tables
open Operations
open Stores
open StoreRules
open Flows
open Service
open RequestOutcomes (anyRequest)

section Errors

/-- The errors of the branches for timestamps that do not parse. -/
def parseFailures : List String :=
  ["parse existing OTP expiry: %w", "parse OTP expiry: %w",
    "parse session expiry: %w"]

def isParseFailure : GoError → Bool
  | .errorf text _ _ => parseFailures.contains text
  | _ => false

/-- Whether a call has ended in one of these branches. -/
def parseFailed : Outcome → Bool
  | .requestOTP (.error err) => isParseFailure err
  | .verifyOTP (.error err) => isParseFailure err
  | .refreshTokens (.error err) => isParseFailure err
  | .logout (.error err) => isParseFailure err
  | _ => false

/-- If a record was read, its expiry is a timestamp. -/
def readable : Entry → Prop
  | ⟨.otpGetItem _, .ok (some item)⟩ => (parse item.expiresAt).isSome = true
  | ⟨.sessionsGetItem _, .ok (some item)⟩ =>
      (parse item.expiresAt).isSome = true
  | _ => True

end Errors

section Combinators

variable {A B : Type} {good : A → Prop} {flow : Flow A} {history : History}

/-- The flow returns good values and does not end in such a branch, provided
that what it has read is readable. -/
def Yields (good : A → Prop) (flow : Flow A) : Prop :=
  ∀ history, Sat anyRequest (fun reached outcome =>
    (∀ entry ∈ reached, readable entry) →
      match outcome with
      | .error err => isParseFailure err = false
      | .ok value => good value) flow.run history

/-- The flow does not end in such a branch. -/
abbrev Parses (flow : Flow A) : Prop := Yields (fun _ => True) flow

theorem sat_anyRequest {post : History → A → Prop} {program : Prog Op Op.Res A}
    (hpost : ∀ reached value, post reached value) :
    Sat anyRequest post program history := by
  induction program generalizing history with
  | pure value => exact hpost history value
  | call op next ih => exact ⟨trivial, fun response => ih response⟩

theorem yields_pure {value : A} (hgood : good value) :
    Yields good (pure value : Flow A) :=
  fun _ _ => hgood

theorem yields_throw {err : GoError} (herr : isParseFailure err = false) :
    Yields good (throw err : Flow A) :=
  fun _ _ => herr

theorem parses_request (op : Op) : Parses (request op) :=
  fun _ => sat_request.mpr ⟨trivial, fun _ _ => trivial⟩

theorem parses_attempt (flow : Flow A) : Parses (attempt flow) :=
  fun _ => (sat_attempt flow).mpr (sat_anyRequest fun _ _ _ => trivial)

theorem Yields.attempt (hflow : Yields good flow) :
    Yields (fun outcome => ∀ value, outcome = .ok value → good value)
      (attempt flow) := by
  intro history
  refine (sat_attempt flow).mpr ((hflow history).mono ?_)
  intro reached outcome hreached hreadable value heq
  subst heq
  exact hreached hreadable

/-- An error that is wrapped is no longer one of these. -/
theorem parses_wrapError {wrap : GoError → GoError} (flow : Flow A)
    (hwrap : ∀ err, isParseFailure (wrap err) = false) :
    Parses (wrapError wrap flow) := by
  refine fun history => (sat_wrapError wrap flow).mpr (sat_anyRequest ?_)
  intro reached outcome _
  cases outcome with
  | error err => exact hwrap err
  | ok value => trivial

theorem Yields.wrapError {wrap : GoError → GoError} (hflow : Yields good flow)
    (hwrap : ∀ err, isParseFailure (wrap err) = false) :
    Yields good (wrapError wrap flow) := by
  intro history
  refine (sat_wrapError wrap flow).mpr ((hflow history).mono ?_)
  intro reached outcome hreached hreadable
  cases outcome with
  | error err => exact hwrap err
  | ok value => exact hreached hreadable

theorem Yields.bind {wanted : B → Prop} {continueWith : A → Flow B}
    (hflow : Yields good flow)
    (hcontinue : ∀ value, good value → Yields wanted (continueWith value)) :
    Yields wanted (flow >>= continueWith) := by
  intro history
  rw [sat_run_bind]
  refine (hflow history).mono ?_
  intro reached outcome hreached
  cases outcome with
  | error err => exact hreached
  | ok value =>
      by_cases hreadable : ∀ entry ∈ reached, readable entry
      · exact hcontinue value (hreached hreadable) reached
      · -- What follows cannot make the reads before it readable.
        refine (sat_anyRequest fun _ _ => trivial :
          Sat anyRequest (fun _ _ => True) _ reached).extends.mono ?_
        intro later outcome ⟨_, hsuffix⟩ hlater
        exact (hreadable fun entry hentry =>
          hlater entry (hsuffix.subset hentry)).elim

theorem parses_request_bind {op : Op} {continueWith : op.Res → Flow A}
    (hcontinue : ∀ response, Yields good (continueWith response)) :
    Yields good (request op >>= continueWith) :=
  (parses_request op).bind fun response _ => hcontinue response

end Combinators

section Reads

theorem yields_getOTP (phoneHash : String) :
    Yields (fun record => (parse record.expiresAt).isSome = true)
      (getOTP phoneHash) := by
  intro history
  unfold getOTP
  rw [sat_run_bind, sat_request]
  refine ⟨trivial, ?_⟩
  rintro (err | _ | item)
  · exact fun _ => rfl
  · exact fun _ => rfl
  · exact fun hreadable => hreadable _ List.mem_cons_self

theorem yields_getSessionByID (sessionID : String) :
    Yields (fun session => (parse session.expiresAt).isSome = true)
      (getSessionByID sessionID) := by
  intro history
  unfold getSessionByID
  rw [sat_run_bind, sat_request]
  refine ⟨trivial, ?_⟩
  rintro (err | _ | item)
  · exact fun _ => rfl
  · exact fun _ => rfl
  · exact fun hreadable => hreadable _ List.mem_cons_self

theorem yields_readOTPRecord (phoneHash : String) :
    Yields (fun record => (parse record.expiresAt).isSome = true)
      (readOTPRecord phoneHash) := by
  refine (yields_getOTP phoneHash).attempt.bind ?_
  intro outcome houtcome
  cases outcome with
  | error err =>
      dsimp only
      split
      · exact yields_throw rfl
      · exact yields_throw rfl
  | ok record => exact yields_pure (houtcome record rfl)

theorem yields_lookupSession (sessionID : String) :
    Yields (fun session => (parse session.expiresAt).isSome = true)
      (lookupSession sessionID) := by
  refine (yields_getSessionByID sessionID).attempt.bind ?_
  intro outcome houtcome
  cases outcome with
  | error err =>
      dsimp only
      split
      · exact yields_throw rfl
      · exact yields_throw rfl
  | ok session => exact yields_pure (houtcome session rfl)

end Reads

section Requests

variable (cfg : AuthServiceConfig)

theorem parses_existingOTP (phoneHash : String) :
    Parses (existingOTP phoneHash) := by
  refine ((yields_getOTP phoneHash).wrapError fun _ => rfl).bind ?_
  intro record hrecord
  split
  · next hnone =>
      rw [hnone] at hrecord
      cases hrecord
  · exact yields_pure trivial

theorem parses_checkRequestRateLimits (phoneHash clientIP : String) :
    Parses (checkRequestRateLimits phoneHash clientIP) := by
  refine Yields.bind (parses_wrapError _ fun _ => rfl) fun allowed _ => ?_
  split
  · exact yields_throw rfl
  refine Yields.bind (parses_attempt _) fun outcome _ => ?_
  cases outcome with
  | error err => exact yields_pure trivial
  | ok ipAllowed =>
      dsimp only
      split
      · exact yields_throw rfl
      · exact yields_pure trivial

theorem isParseFailure_of_newPhoneNumber {phone : String} {err : GoError}
    (herr : newPhoneNumber phone = .error err) :
    isParseFailure err = false := by
  unfold newPhoneNumber at herr
  split at herr
  · cases herr
    rfl
  split at herr
  · cases herr
    rfl
  · cases herr

theorem parses_requestOTP (phone clientIP : String) :
    Parses (requestOTP cfg phone clientIP) := by
  unfold requestOTP
  split
  · next err herr => exact yields_throw (isParseFailure_of_newPhoneNumber herr)
  refine Yields.bind (parses_checkRequestRateLimits _ _) fun _ _ => ?_
  refine Yields.bind (parses_wrapError _ fun _ => rfl) fun otp _ => ?_
  refine parses_request_bind fun now => ?_
  refine Yields.bind (parses_attempt _) fun outcome _ => ?_
  cases outcome with
  | error err =>
      dsimp only
      split
      · exact parses_existingOTP _
      · exact yields_throw rfl
  | ok done => exact parses_request_bind fun _ => yields_pure trivial

end Requests

section Verifications

variable (cfg : AuthServiceConfig)

theorem parses_checkVerifyRateLimits (phoneHash : String) :
    Parses (checkVerifyRateLimits phoneHash) := by
  refine Yields.bind (parses_wrapError _ fun _ => rfl) fun allowed _ => ?_
  split
  · exact yields_throw rfl
  refine Yields.bind (parses_wrapError _ fun _ => rfl) fun locked _ => ?_
  split
  · exact yields_throw rfl
  · exact yields_pure trivial

theorem parses_validateOTPRecord (phoneHash otpCandidate : String) :
    Parses (validateOTPRecord phoneHash otpCandidate) := by
  refine (yields_readOTPRecord phoneHash).bind fun record hrecord => ?_
  split
  · exact yields_throw rfl
  split
  · exact Yields.bind (parses_attempt _) fun _ _ => yields_throw rfl
  split
  · next hnone =>
      rw [hnone] at hrecord
      cases hrecord
  refine parses_request_bind fun now => ?_
  split
  · exact yields_throw rfl
  refine parses_request_bind fun matched => ?_
  split
  · exact yields_pure trivial
  · exact Yields.bind (parses_attempt _) fun _ _ => yields_throw rfl

theorem parses_evictSessions {deleteText revokeText : String}
    (hdelete : parseFailures.contains deleteText = false)
    (hrevoke : parseFailures.contains revokeText = false)
    (sessions : List SessionRecord) :
    Parses (evictSessions deleteText revokeText sessions) := by
  induction sessions with
  | nil => exact yields_pure trivial
  | cons session rest ih =>
      have hsession : Parses (evictSession deleteText revokeText session) :=
        Yields.bind (parses_wrapError _ fun _ => hdelete) fun _ _ =>
          parses_wrapError _ fun _ => hrevoke
      exact hsession.bind fun _ _ => ih

theorem parses_createLoginSession (phoneHash : String) (record : OTPRecord)
    (user : UserRecord) (deviceID : String) :
    Parses (createLoginSession cfg phoneHash record user deviceID) := by
  refine parses_request_bind fun sessionID => parses_request_bind fun now => ?_
  refine Yields.bind (parses_wrapError _ fun _ => rfl) fun refreshToken _ => ?_
  refine Yields.bind (parses_wrapError _ fun _ => rfl) fun _ _ => ?_
  exact Yields.bind (parses_wrapError _ fun _ => rfl) fun _ _ =>
    yields_pure trivial

theorem parses_verifyOTPExistingUser (phoneHash : String) (record : OTPRecord)
    (user : UserRecord) (deviceID : String) :
    Parses (verifyOTPExistingUser cfg phoneHash record user deviceID) := by
  refine Yields.bind (parses_wrapError _ fun _ => rfl) fun sessions _ => ?_
  refine Yields.bind (parses_evictSessions (by decide) (by decide) _)
    fun _ _ => ?_
  refine Yields.bind (parses_evictSessions (by decide) (by decide) _)
    fun _ _ => ?_
  exact parses_createLoginSession cfg phoneHash record user deviceID

theorem parses_verifyOTPNewUser (phone phoneHash : String) (record : OTPRecord)
    (deviceID : String) :
    Parses (verifyOTPNewUser cfg phone phoneHash record deviceID) := by
  refine parses_request_bind fun userID => parses_request_bind fun sessionID =>
    parses_request_bind fun now => ?_
  refine Yields.bind (parses_wrapError _ fun _ => rfl) fun refreshToken _ => ?_
  refine Yields.bind (parses_attempt _) fun outcome _ => ?_
  cases outcome with
  | error err =>
      dsimp only
      split
      · refine Yields.bind (parses_wrapError _ fun _ => rfl) fun user _ => ?_
        exact parses_verifyOTPExistingUser cfg phoneHash record user deviceID
      · exact yields_throw rfl
  | ok done =>
      exact Yields.bind (parses_wrapError _ fun _ => rfl) fun _ _ =>
        yields_pure trivial

theorem parses_verifyOTP (phone otpCandidate deviceID : String) :
    Parses (verifyOTP cfg phone otpCandidate deviceID) := by
  unfold verifyOTP
  split
  · next err herr => exact yields_throw (isParseFailure_of_newPhoneNumber herr)
  split
  · exact yields_throw rfl
  refine Yields.bind (parses_checkVerifyRateLimits _) fun _ _ => ?_
  refine Yields.bind (parses_validateOTPRecord _ _) fun record _ => ?_
  refine Yields.bind (parses_attempt _) fun outcome _ => ?_
  cases outcome with
  | error err =>
      dsimp only
      split
      · exact parses_verifyOTPNewUser cfg phone _ record deviceID
      · exact yields_throw rfl
  | ok user => exact parses_verifyOTPExistingUser cfg _ record user deviceID

end Verifications

section Refreshes

variable (cfg : AuthServiceConfig)

theorem parses_rotateRefreshToken (userID sessionID : String)
    (session : SessionRecord) :
    Parses (rotateRefreshToken cfg userID sessionID session) := by
  refine Yields.bind (parses_wrapError _ fun _ => rfl) fun newRefresh _ => ?_
  refine parses_request_bind fun now => ?_
  refine Yields.bind (parses_wrapError _ fun _ => rfl) fun _ _ => ?_
  exact Yields.bind (parses_wrapError _ fun _ => rfl) fun _ _ =>
    yields_pure trivial

theorem parses_revokeReusedSession (claims : Claims) :
    Parses (revokeReusedSession claims) := by
  refine Yields.bind (parses_attempt _) fun _ _ => ?_
  exact Yields.bind (parses_attempt _) fun _ _ => yields_throw rfl

theorem parses_refreshTokens (accessToken refreshToken deviceID : String) :
    Parses (refreshTokens cfg accessToken refreshToken deviceID) := by
  refine parses_request_bind fun validatedAt => ?_
  split
  · exact yields_throw rfl
  refine (yields_lookupSession _).bind fun session hsession => ?_
  split
  · exact yields_throw rfl
  split
  · next hnone =>
      rw [hnone] at hsession
      cases hsession
  refine parses_request_bind fun now => ?_
  split
  · exact yields_throw rfl
  split
  · exact parses_rotateRefreshToken cfg _ _ _
  split
  · exact parses_revokeReusedSession _
  · exact yields_throw rfl

theorem parses_logout (accessToken : String) :
    Parses (logout cfg accessToken) := by
  refine parses_request_bind fun now => ?_
  split
  · exact yields_throw rfl
  refine Yields.bind (parses_attempt _) fun _ _ => ?_
  exact parses_wrapError _ fun _ => rfl

end Refreshes

section Calls

/-- A call returns the outcome of its flow. -/
theorem Parses.sat_returned {A : Type} {flow : Flow A}
    {outcomeOf : Except GoError A → Outcome} (hflow : Parses flow)
    (herror : ∀ err, parseFailed (outcomeOf (.error err)) = isParseFailure err)
    (hok : ∀ value, parseFailed (outcomeOf (.ok value)) = false) :
    Sat anyRequest (fun history outcome =>
        (∀ entry ∈ history, readable entry) → parseFailed outcome = false)
      (flow.run >>= fun outcome => pure (outcomeOf outcome)) [] := by
  rw [sat_bind]
  refine (hflow []).mono ?_
  intro history outcome hparses
  cases outcome with
  | error err =>
      intro hreadable
      rw [herror]
      exact hparses hreadable
  | ok value => exact fun _ => hok value

/-- No call ends in one of the branches, provided that what it has read is
readable. -/
theorem sat_program_parses (cfg : AuthServiceConfig) (req : Request) :
    Sat anyRequest (fun history outcome =>
        (∀ entry ∈ history, readable entry) → parseFailed outcome = false)
      (program cfg req) [] := by
  cases req with
  | requestOTP phone clientIP =>
      exact (parses_requestOTP cfg phone clientIP).sat_returned
        (fun _ => rfl) fun _ => rfl
  | verifyOTP phone otpCandidate deviceID =>
      exact (parses_verifyOTP cfg phone otpCandidate deviceID).sat_returned
        (fun _ => rfl) fun _ => rfl
  | refreshTokens accessToken refreshToken deviceID =>
      exact (parses_refreshTokens cfg accessToken refreshToken
        deviceID).sat_returned (fun _ => rfl) fun _ => rfl
  | logout accessToken =>
      exact (parses_logout cfg accessToken).sat_returned (fun _ => rfl)
        fun _ => rfl

end Calls

end MessagingPlatform.ParseFailures
