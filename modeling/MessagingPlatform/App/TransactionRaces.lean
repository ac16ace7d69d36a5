import MessagingPlatform.Adapter.AllowedRequests
import MessagingPlatform.App.RequestOutcomes
import MessagingPlatform.Errmap.Mappers

/-!
# Canceled transactions of a verification

`classifyTxError` makes one conflict of every failed condition, that of the
OTP item included.  A verification whose registration is canceled goes on
exactly if a condition failed: then it falls back to a login.  A verification
whose login is canceled ends there.
-/

namespace MessagingPlatform.TransactionRaces

open Program
open Instants
open Errors
open Mappers
open Records
open Identifiers
open Primitives
open Tables
open Operations
open Stores
open StoreRules
open AllowedRequests
open Flows
open RequestOutcomes (anyRequest)

section Reasons

/-- Whether the condition of an item is among the failed ones. -/
def failedAt (reasons : List String) (index : ℕ) : Bool :=
  reasons[index]? == some conditionalCheckFailedReason

def anyFailed (reasons : List String) : Bool :=
  reasons.contains conditionalCheckFailedReason

/-- Whether the put of a user or of a phone reservation failed; only a
registration, of four items, has them. -/
def userFailed (reasons : List String) : Bool :=
  reasons.length == 4 && (failedAt reasons 1 || failedAt reasons 2)

theorem anyFailed_of_failedAt {reasons : List String} {index : ℕ}
    (hfailed : failedAt reasons index = true) : anyFailed reasons = true := by
  rw [failedAt, beq_iff_eq] at hfailed
  exact List.contains_iff_mem.mpr (List.mem_of_getElem? hfailed)

theorem firstConditionFailure_eq_none_iff {reasons : List String} :
    firstConditionFailure reasons = none ↔ anyFailed reasons = false := by
  rw [firstConditionFailure, List.findIdx?_eq_none_iff, anyFailed,
    Bool.eq_false_iff, ne_eq, List.contains_iff_mem]
  constructor
  · intro hnone hmem
    simpa using hnone _ hmem
  · intro hmem reason hreason
    rw [beq_eq_false_iff_ne]
    rintro rfl
    exact hmem hreason

/-- Every failed condition is a conflict, and nothing else is. -/
theorem errorsIs_classifyTxError (operation : String)
    (itemNames reasons : List String) :
    errorsIs .errAlreadyExists
        (classifyTxError operation itemNames (.transactionCanceled reasons)) =
      anyFailed reasons := by
  rw [classifyTxError]
  cases hfirst : firstConditionFailure reasons with
  | none =>
      rw [firstConditionFailure_eq_none_iff.mp hfirst]
      rfl
  | some index =>
      have hany : anyFailed reasons ≠ false := fun hnone => by
        rw [firstConditionFailure_eq_none_iff.mpr hnone] at hfirst
        cases hfirst
      rw [eq_true_of_ne_false hany]
      rfl

end Reasons

section Calm

variable {A : Type}

def transacts : Op → Bool
  | .transactWriteItems _ => true
  | _ => false

/-- A flow without a transaction. -/
abbrev Calm (flow : Flow A) : Prop :=
  Only (fun op => transacts op = false) flow

theorem calm_checkVerifyRateLimits (phoneHash : String) :
    Calm (checkVerifyRateLimits phoneHash) := by
  unfold checkVerifyRateLimits
  refine Only.bind (Only.wrapError (only_checkAndIncrement rfl))
    fun allowed => ?_
  split
  · exact only_throw _
  refine Only.bind (Only.wrapError (only_checkLockout rfl))
    fun locked => ?_
  split
  · exact only_throw _
  · exact only_pure _

theorem calm_readOTPRecord (phoneHash : String) :
    Calm (readOTPRecord phoneHash) := by
  unfold readOTPRecord
  refine Only.bind (Only.attempt (only_getOTP rfl)) ?_
  rintro (err | record)
  · dsimp only
    split
    · exact only_throw _
    · exact only_throw _
  · exact only_pure _

theorem calm_validateOTPRecord (phoneHash otpCandidate : String) :
    Calm (validateOTPRecord phoneHash otpCandidate) := by
  unfold validateOTPRecord
  refine Only.bind (calm_readOTPRecord _) fun record => ?_
  split
  · exact only_throw _
  split
  · exact Only.bind (Only.attempt (only_setLockout rfl)) fun _ => only_throw _
  split
  · exact only_throw _
  refine only_request_bind rfl fun now => ?_
  split
  · exact only_throw _
  refine only_request_bind rfl fun matched => ?_
  split
  · exact only_pure _
  · exact Only.bind (Only.attempt (only_incrementAttempts rfl))
      fun _ => only_throw _

theorem calm_evictSessions (deleteText revokeText : String)
    (sessions : List SessionRecord) :
    Calm (evictSessions deleteText revokeText sessions) := by
  induction sessions with
  | nil => exact only_pure _
  | cons session rest ih =>
      unfold evictSessions evictSession
      refine Only.bind ?_ fun _ => ih
      exact Only.bind (Only.wrapError (only_deleteSession rfl)) fun _ =>
        Only.wrapError (only_revoke rfl)

theorem calm_findByPhone (phoneNumber : String) :
    Calm (findByPhone phoneNumber) :=
  only_findByPhone rfl rfl fun _ => rfl

theorem calm_mintAccessToken (cfg : AuthServiceConfig)
    (userID sessionID : String) :
    Calm (mintAccessToken cfg userID sessionID) := by
  refine only_mintAccessToken fun op hop => ?_
  cases op with
  | transactWriteItems items => cases hop
  | _ => rfl

end Calm

section Fallback

variable {A : Type} {history : History}

/-- The entry of a transaction that was canceled. -/
def canceled (items : List TransactWriteItem) (reasons : List String) :
    Entry :=
  ⟨.transactWriteItems items, .error (.transactionCanceled reasons)⟩

/-- Every transaction that was canceled had a failed condition. -/
def Raced (history : History) : Prop :=
  ∀ items reasons, canceled items reasons ∈ history →
    anyFailed reasons = true

/-- Nothing is requested after any other cancellation. -/
def racedGuard (older : History) (_ : Op) : Prop := Raced older

theorem raced_nil : Raced [] := by simp [Raced]

theorem Raced.cons (hraced : Raced history) {op : Op}
    (hop : transacts op = false) (response : op.Res) :
    Raced (⟨op, response⟩ :: history) := by
  intro items reasons hmem
  rcases List.mem_cons.mp hmem with heq | hmem
  · cases heq
    cases hop
  · exact hraced items reasons hmem

theorem Raced.cons_transaction (hraced : Raced history)
    (items : List TransactWriteItem) {response : Except DynamoError Unit}
    (hresponse : ∀ reasons, response = .error (.transactionCanceled reasons) →
      anyFailed reasons = true) :
    Raced (⟨.transactWriteItems items, response⟩ :: history) := by
  intro others reasons hmem
  rcases List.mem_cons.mp hmem with heq | hmem
  · cases heq
    exact hresponse reasons rfl
  · exact hraced others reasons hmem

/-- A flow without transactions leaves it so. -/
theorem Calm.raced {flow : Flow A} (hflow : Calm flow)
    (hraced : Raced history) :
    Sat racedGuard (fun reached _ => Raced reached) flow.run history := by
  suffices hprog : ∀ (program : Prog Op Op.Res (Except GoError A)) history,
      Sat (fun _ op => transacts op = false) (fun _ _ => True) program
        history → Raced history →
      Sat racedGuard (fun reached _ => Raced reached) program history from
    hprog flow.run history (hflow history) hraced
  intro program
  induction program with
  | pure outcome => exact fun history _ hraced => hraced
  | call op next ih =>
      intro history hsat hraced
      exact ⟨hraced, fun response =>
        ih response _ (hsat.2 response) (hraced.cons hsat.1 response)⟩

/-- A flow without transactions, followed by another one. -/
theorem raced_bind {B : Type} {flow : Flow A}
    {continueWith : A → Flow B} (hflow : Calm flow) (hraced : Raced history)
    (hcontinue : ∀ value reached, Raced reached →
      Sat racedGuard (fun _ _ => True) (continueWith value).run reached) :
    Sat racedGuard (fun _ _ => True) (flow >>= continueWith).run history := by
  rw [sat_run_bind]
  refine (hflow.raced hraced).mono ?_
  rintro reached (err | value) hreached
  · trivial
  · exact hcontinue value reached hreached

variable {cfg : AuthServiceConfig}

theorem raced_createLoginSession (phoneHash : String) (record : OTPRecord)
    (user : UserRecord) (deviceID : String) (hraced : Raced history) :
    Sat racedGuard (fun _ _ => True)
      (createLoginSession cfg phoneHash record user deviceID).run history := by
  unfold createLoginSession
  refine raced_bind (only_request rfl) hraced fun sessionID _ hraced => ?_
  refine raced_bind (only_request rfl) hraced fun now _ hraced => ?_
  refine raced_bind (Only.wrapError (only_generateRefreshToken rfl)) hraced
    fun refreshToken _ hraced => ?_
  rw [sat_run_bind, sat_wrapError]
  unfold verifyOTPAndCreateSession
  rw [sat_run_bind, sat_request]
  refine ⟨hraced, ?_⟩
  rintro (err | done)
  · trivial
  · exact raced_bind (Only.wrapError (calm_mintAccessToken cfg _ _))
      (hraced.cons_transaction _ nofun) fun _ _ _ => trivial

theorem raced_verifyOTPExistingUser (phoneHash : String) (record : OTPRecord)
    (user : UserRecord) (deviceID : String) (hraced : Raced history) :
    Sat racedGuard (fun _ _ => True)
      (verifyOTPExistingUser cfg phoneHash record user deviceID).run
      history := by
  unfold verifyOTPExistingUser
  refine raced_bind (Only.wrapError (only_listByUser rfl fun _ => rfl))
    hraced
    fun sessions _ hraced => ?_
  refine raced_bind (calm_evictSessions _ _ _) hraced fun _ _ hraced => ?_
  refine raced_bind (calm_evictSessions _ _ _) hraced fun _ _ hraced => ?_
  exact raced_createLoginSession phoneHash record user deviceID hraced

/-- The fallback to a login follows a failed condition. -/
theorem raced_verifyOTPNewUser (phone phoneHash : String) (record : OTPRecord)
    (deviceID : String) (hraced : Raced history) :
    Sat racedGuard (fun _ _ => True)
      (verifyOTPNewUser cfg phone phoneHash record deviceID).run history := by
  unfold verifyOTPNewUser
  refine raced_bind (only_request rfl) hraced fun userID _ hraced => ?_
  refine raced_bind (only_request rfl) hraced fun sessionID _ hraced => ?_
  refine raced_bind (only_request rfl) hraced fun now _ hraced => ?_
  refine raced_bind (Only.wrapError (only_generateRefreshToken rfl)) hraced
    fun refreshToken _ hraced => ?_
  rw [sat_run_bind, sat_attempt]
  unfold verifyOTPAndCreateUser
  rw [sat_run_bind, sat_request]
  refine ⟨hraced, ?_⟩
  rintro (cause | done)
  · change Sat racedGuard _ (ite _ _ _ : Flow VerifyOTPResult).run _
    split
    · next hconflict =>
        refine raced_bind (Only.wrapError (calm_findByPhone phone))
          (hraced.cons_transaction _ ?_) fun user _ hraced => ?_
        · rintro reasons heq
          cases heq
          rwa [errorsIs_classifyTxError] at hconflict
        · exact raced_verifyOTPExistingUser phoneHash record user deviceID
            hraced
    · trivial
  · exact raced_bind (Only.wrapError (calm_mintAccessToken cfg _ _))
      (hraced.cons_transaction _ nofun) fun _ _ _ => trivial

theorem raced_verifyOTP (phone otpCandidate deviceID : String) :
    Sat racedGuard (fun _ _ => True)
      (verifyOTP cfg phone otpCandidate deviceID).run [] := by
  unfold verifyOTP
  split
  · trivial
  split
  · trivial
  refine raced_bind (calm_checkVerifyRateLimits _) raced_nil
    fun _ _ hraced => ?_
  refine raced_bind (calm_validateOTPRecord _ _) hraced
    fun record _ hraced => ?_
  refine raced_bind (Only.attempt (calm_findByPhone phone)) hraced ?_
  rintro (err | user) reached hraced
  · dsimp only
    split
    · exact raced_verifyOTPNewUser phone _ record deviceID hraced
    · trivial
  · exact raced_verifyOTPExistingUser _ record user deviceID hraced

end Fallback

end MessagingPlatform.TransactionRaces
