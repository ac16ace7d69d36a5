import MessagingPlatform.App.TransactionRaces
import MessagingPlatform.System.Deployment

/-!
# Losing the race for a code

A verification whose transaction finds the code consumed has lost it to
another call.  The adapter reports that as a conflict like any other, so a
registration goes on to the login, and a login is answered as a conflict.
-/

namespace MessagingPlatform.LostRaces

open Program
open Interleaving
open Instants
open Errors
open Mappers
open Records
open Primitives
open Tables
open Operations
open Stores
open Flows
open RequestOutcomes (anyRequest)
open TransactionRaces
open Service
open Deployment

/-- The error that a canceled transaction is reported with: that of the
registration if it has four items, that of the login otherwise. -/
def reportedError (reasons : List String) : GoError :=
  if reasons.length = 4 then
    classifyTxError "verify otp and create user"
      ["otp_update", "user_put", "phone_sentinel", "session_put"]
      (.transactionCanceled reasons)
  else
    classifyTxError "verify otp and create session"
      ["otp_update", "session_put"] (.transactionCanceled reasons)

/-- What a verification ought to make of a cancellation: a lost code ends it
as an authentication failure, and it goes on only for a user or a reservation
that exists. -/
structure Handled (quote : String → String) (reasons : List String)
    (newer : History) (outcome : Except GoError VerifyOTPResult) : Prop where
  lost : failedAt reasons 0 = true → newer = [] ∧
    ∃ err, outcome = .error err ∧ errorsIs .errInvalidOTP err = true ∧
      (toGRPCStatus quote (some err)).code = .unauthenticated
  fallback : newer ≠ [] →
    failedAt reasons 0 = false ∧ userFailed reasons = true

/-- Every verification, in every history with such a cancellation, handles
it. -/
def HandledAlways (cfg : AuthServiceConfig) (quote : String → String)
    (reasons : List String) : Prop :=
  ∀ phone otpCandidate deviceID,
    Sat anyRequest (fun history outcome => ∀ newer items older,
        history = newer ++ canceled items reasons :: older →
        Handled quote reasons newer outcome)
      (verifyOTP cfg phone otpCandidate deviceID).run []

variable {cfg : AuthServiceConfig} {quote : String → String}
variable {reasons : List String}

theorem errorsIs_reportedError (reasons : List String) :
    errorsIs .errAlreadyExists (reportedError reasons) = anyFailed reasons := by
  unfold reportedError
  split <;> exact errorsIs_classifyTxError _ _ reasons

/-- What follows a cancellation follows a failed condition. -/
theorem anyFailed_of_newer {history newer older : History}
    {items : List TransactWriteItem}
    (hconforms : Conforms racedGuard history)
    (hhistory : history = newer ++ canceled items reasons :: older)
    (hnewer : newer ≠ []) : anyFailed reasons = true := by
  obtain ⟨rest, entry, rfl⟩ :=
    (List.eq_nil_or_concat newer).resolve_left hnewer
  have hsuffix : entry :: canceled items reasons :: older <:+ history := by
    rw [hhistory]
    exact ⟨rest, by simp⟩
  exact (hconforms.suffix hsuffix).1 items reasons List.mem_cons_self

/-- A cancellation is handled as it ought to be exactly if the code was not
lost and a condition, if one failed, is that of the user or of the
reservation.  Without a failed condition there is never a conflict. -/
theorem cancellation_handled_iff (cfg : AuthServiceConfig)
    (quote : String → String) (reasons : List String) :
    (HandledAlways cfg quote reasons ∧
        (errorsIs .errAlreadyExists (reportedError reasons) = true →
          failedAt reasons 0 = false ∧ userFailed reasons = true) ↔
      failedAt reasons 0 = false ∧
        (anyFailed reasons = true → userFailed reasons = true)) ∧
    (anyFailed reasons = false →
      errorsIs .errAlreadyExists (reportedError reasons) = false) := by
  rw [errorsIs_reportedError]
  refine ⟨⟨?_, ?_⟩, id⟩
  · rintro ⟨-, hconflict⟩
    refine ⟨?_, fun hany => (hconflict hany).2⟩
    by_contra hlost
    rw [Bool.not_eq_false] at hlost
    rw [(hconflict (anyFailed_of_failedAt hlost)).1] at hlost
    cases hlost
  · rintro ⟨hheld, huser⟩
    refine ⟨?_, fun hany => ⟨hheld, huser hany⟩⟩
    intro phone otpCandidate deviceID
    have hsat : Sat racedGuard (fun reached _ =>
          True ∧ Conforms racedGuard reached)
        (verifyOTP cfg phone otpCandidate deviceID).run [] :=
      (raced_verifyOTP phone otpCandidate deviceID).conforms trivial
    refine (hsat.mono ?_).weaken fun _ _ _ => trivial
    intro history outcome hreturned newer items older heq
    refine ⟨fun hlost => ?_, fun hnewer => ⟨hheld, huser ?_⟩⟩
    · rw [hheld] at hlost
      cases hlost
    · exact anyFailed_of_newer hreturned.2 heq hnewer

section Schedules

/-- Two registrations of one device with one code.  Both have read the record
when the first commits; the second then finds the user and the session of the
first, evicts that session, and finds the code consumed again. -/
def lostRegistration : Pool :=
  (machine (deployment [])).runTo withoutFaults (start evening)
    (serve 0 (.requestOTP phone "203.0.113.7") (issuing 123456) ++
      serve 1 (.verifyOTP phone "123456" "device-a") accepting ++
      serve 2 (.verifyOTP phone "123456" "device-a")
        (accepting ++ registering user session refreshA ++
          minting "33333333-3333-4333-8333-333333333333") ++
      resume 1 (registering "44444444-4444-4444-8444-444444444444" sessionB
        refreshB) ++
      [.env (.replicateUser user), .env (.replicateSession session)] ++
      resume 1 (finding user [session] ++ evicting 1 ++
        loggingIn sessionC refreshC))

theorem reach_lostRegistration :
    (machine (deployment [])).Reach withoutFaults (start evening)
      lostRegistration := Machine.reach_runTo _

/-- The gRPC code of a verification that has failed. -/
def failureCode (call : Call) : Option Code :=
  match verifyOutcome call with
  | some (.error err) => some (toGRPCStatus id (some err)).code
  | _ => none

/-- The call that lost the code is answered as a conflict, and has deleted the
session of the call that won it. -/
theorem lost_code_answered_as_conflict :
    (machine (deployment [])).Reach withoutFaults (start evening)
      lostRegistration ∧
    (∃ call ∈ lostRegistration.calls.lookup 2,
      verifiedSession call = some session) ∧
    (∃ call ∈ lostRegistration.calls.lookup 1,
      (call.history.any fun entry =>
        match entry with
        | ⟨.transactWriteItems _, .error (.transactionCanceled reasons)⟩ =>
            failedAt reasons 0 && reasons.length == 4
        | _ => false) = true ∧
      failureCode call = some .alreadyExists) ∧
    session ∉ lostRegistration.store.sessions := by
  refine ⟨reach_lostRegistration, ?_⟩
  decide +kernel

end Schedules

end MessagingPlatform.LostRaces
