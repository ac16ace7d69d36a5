import MessagingPlatform.Core.Sequential
import MessagingPlatform.App.Flows

/-!
# The running service

Calls of the four flows, interleaved at the granularity of single requests to
the environment.  Time passes and index replicas catch up between any two
requests.
-/

namespace MessagingPlatform.Service

open Program
open Interleaving
open MessagingPlatform.Sequential
open Instants
open Errors
open Records
open Primitives
open Tables
open Operations
open Flows

inductive Request where
  | requestOTP (phone clientIP : String)
  | verifyOTP (phone otpCandidate deviceID : String)
  | refreshTokens (accessToken refreshToken deviceID : String)
  | logout (accessToken : String)
  deriving DecidableEq, Repr

inductive Outcome where
  | requestOTP (outcome : Except GoError RequestOTPResult)
  | verifyOTP (outcome : Except GoError VerifyOTPResult)
  | refreshTokens (outcome : Except GoError RefreshResult)
  | logout (outcome : Except GoError Unit)

variable (cfg : AuthServiceConfig)

/-- The program that serves a request. -/
def program : Request → Prog Op Op.Res Outcome
  | .requestOTP phone clientIP => do
      let outcome ← (requestOTP cfg phone clientIP).run
      return .requestOTP outcome
  | .verifyOTP phone otpCandidate deviceID => do
      let outcome ← (verifyOTP cfg phone otpCandidate deviceID).run
      return .verifyOTP outcome
  | .refreshTokens accessToken refreshToken deviceID => do
      let outcome ← (refreshTokens cfg accessToken refreshToken deviceID).run
      return .refreshTokens outcome
  | .logout accessToken => do
      let outcome ← (logout cfg accessToken).run
      return .logout outcome

def machine :
    Machine Store Op Op.Res Choice Operations.Env Request Outcome where
  program := program cfg
  perform := perform cfg
  advance := advance

abbrev Pool := Interleaving.Pool Store Op Op.Res Request Outcome
abbrev Call := Interleaving.Call Op Op.Res Request Outcome
abbrev Event := Interleaving.Event Store Op Op.Res
abbrev Label := Interleaving.Label Choice Operations.Env Request

/-- The phone that a request is about. -/
def Request.phone : Request → Option String
  | .requestOTP phone _ => some phone
  | .verifyOTP phone _ _ => some phone
  | _ => none

/-- The device that a verification is for. -/
def Request.verifyDevice : Request → Option String
  | .verifyOTP _ _ deviceID => some deviceID
  | _ => none

/-- What a refresh that has succeeded returned. -/
def refreshResult (call : Call) : Option RefreshResult :=
  match call.rest with
  | .pure (.refreshTokens (.ok result)) => some result
  | _ => none

theorem rest_of_refreshResult {call : Call} {result : RefreshResult}
    (hresult : refreshResult call = some result) :
    call.rest = .pure (.refreshTokens (.ok result)) := by
  unfold refreshResult at hresult
  split at hresult
  · next hrest =>
      cases hresult
      exact hrest
  · cases hresult

/-- The outcome of a verification that has returned. -/
def verifyOutcome (call : Call) : Option (Except GoError VerifyOTPResult) :=
  match call.rest with
  | .pure (.verifyOTP outcome) => some outcome
  | _ => none

theorem rest_of_verifyOutcome {call : Call}
    {outcome : Except GoError VerifyOTPResult}
    (houtcome : verifyOutcome call = some outcome) :
    call.rest = .pure (.verifyOTP outcome) := by
  unfold verifyOutcome at houtcome
  split at houtcome
  · next hrest =>
      cases houtcome
      exact hrest
  · cases houtcome

/-- The session that a successful verification returned. -/
def verifiedSession (call : Call) : Option String :=
  ((verifyOutcome call).bind Except.toOption).map VerifyOTPResult.sessionID

/-- Whether a verification has returned an error. -/
def verifyFailed (call : Call) : Bool :=
  (verifyOutcome call).any fun outcome => !outcome.isOk

theorem error_of_verifyFailed {call : Call}
    (hfailed : verifyFailed call = true) :
    ∃ err, verifyOutcome call = some (.error err) := by
  simp only [verifyFailed, Option.any_eq_true] at hfailed
  obtain ⟨outcome, houtcome, herror⟩ := hfailed
  cases outcome with
  | error err => exact ⟨err, houtcome⟩
  | ok result => cases herror

/-- The service with empty tables at some instant. -/
def start (clock : Time) : Pool := .initial (Store.empty clock)

/-- Every step is allowed. -/
def anyStep (_ : Pool) (_ : Label) : Prop := True

instance (pool : Pool) (label : Label) : Decidable (anyStep pool label) :=
  isTrue trivial

/-- No operation fails. -/
def faultless : Label → Prop
  | .exec _ (.fault _) => False
  | .exec _ (.cancel _) => False
  | _ => True

instance : DecidablePred faultless := fun label =>
  match label with
  | .start _ _ => isTrue trivial
  | .env _ => isTrue trivial
  | .exec _ (.fault _) => isFalse id
  | .exec _ (.cancel _) => isFalse id
  | .exec _ .ok => isTrue trivial
  | .exec _ (.number _) => isTrue trivial
  | .exec _ (.text _) => isTrue trivial
  | .exec _ (.order _) => isTrue trivial

theorem unfaulted_of_faultless {id : ℕ} {choice : Choice}
    (hfaultless : faultless (.exec id choice)) : choice.unfaulted := by
  cases choice with
  | fault | cancel => exact hfaultless
  | _ => trivial

/-- Runs in which no operation fails. -/
def withoutFaults (_ : Pool) (label : Label) : Prop := faultless label

instance (pool : Pool) (label : Label) : Decidable (withoutFaults pool label) :=
  inferInstanceAs (Decidable (faultless label))

/-- Runs in which calls come one after another and no operation fails. -/
def orderly (pool : Pool) (label : Label) : Prop :=
  oneByOne pool label ∧ faultless label

instance (pool : Pool) (label : Label) : Decidable (orderly pool label) :=
  inferInstanceAs (Decidable (_ ∧ _))

end MessagingPlatform.Service
