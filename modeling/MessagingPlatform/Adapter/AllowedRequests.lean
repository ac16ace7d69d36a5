import MessagingPlatform.Adapter.StoreRules

/-!
# Flows that keep to some requests

`Only allowed flow`: whatever it is answered, the flow makes allowed requests
only.  Each adapter keeps to its own.
-/

namespace MessagingPlatform.AllowedRequests

open Program
open Instants
open Errors
open Records
open Primitives
open Tables
open Operations
open Stores
open StoreRules

variable {A B : Type} {allowed : Op → Prop}

/-- Every request of the flow is allowed. -/
def Only (allowed : Op → Prop) (flow : Flow A) : Prop :=
  ∀ history, Sat (fun _ op => allowed op) (fun _ _ => True) flow.run history

section Combinators

theorem only_pure (value : A) : Only allowed (pure value : Flow A) :=
  fun _ => trivial

theorem only_throw (err : GoError) : Only allowed (throw err : Flow A) :=
  fun _ => trivial

theorem only_request {op : Op} (hop : allowed op) :
    Only allowed (request op) :=
  fun _ => sat_request.mpr ⟨hop, fun _ => trivial⟩

theorem Only.bind {flow : Flow A} {continueWith : A → Flow B}
    (hflow : Only allowed flow)
    (hcontinue : ∀ value, Only allowed (continueWith value)) :
    Only allowed (flow >>= continueWith) := by
  intro history
  rw [sat_run_bind]
  refine (hflow history).mono ?_
  rintro reached (err | value) -
  · trivial
  · exact hcontinue value reached

theorem Only.wrapError {flow : Flow A} {wrap : GoError → GoError}
    (hflow : Only allowed flow) : Only allowed (wrapError wrap flow) :=
  fun history => (sat_wrapError wrap flow).mpr (hflow history)

theorem Only.attempt {flow : Flow A} (hflow : Only allowed flow) :
    Only allowed (attempt flow) :=
  fun history => (sat_attempt flow).mpr (hflow history)

theorem only_request_bind {op : Op} {continueWith : op.Res → Flow A}
    (hop : allowed op)
    (hcontinue : ∀ response, Only allowed (continueWith response)) :
    Only allowed (request op >>= continueWith) :=
  (only_request hop).bind hcontinue

end Combinators

section Adapters

theorem only_checkAndIncrement {key : RedisKey} {limit windowSeconds : ℕ}
    (hop : allowed (.redisEval key windowSeconds)) :
    Only allowed (checkAndIncrement key limit windowSeconds) := by
  refine only_request_bind hop ?_
  rintro (err | count)
  · exact only_throw _
  · exact only_pure _

theorem only_checkLockout {key : RedisKey}
    (hop : allowed (.redisExists key)) : Only allowed (checkLockout key) := by
  refine only_request_bind hop ?_
  rintro (err | found)
  · exact only_throw _
  · exact only_pure _

theorem only_setLockout {key : RedisKey} {ttlSeconds : ℕ}
    (hop : allowed (.redisSet key ttlSeconds)) :
    Only allowed (setLockout key ttlSeconds) := by
  refine only_request_bind hop ?_
  rintro (err | done)
  · exact only_throw _
  · exact only_pure _

theorem only_revoke {jti : String}
    (hop : allowed (.redisSet (.revokedJTI jti) revokedJTITTL)) :
    Only allowed (revoke jti) := by
  refine only_request_bind hop ?_
  rintro (err | done)
  · exact only_throw _
  · exact only_pure _

theorem only_createOTP {record : OTPRecord} (hclock : allowed .clockNow)
    (hput : ∀ now, allowed (.otpPutItem record.phoneHash (toOTPItem record)
      now)) : Only allowed (createOTP record) := by
  refine only_request_bind hclock fun now => only_request_bind (hput _) ?_
  rintro ((_ | _ | _) | done)
  · exact only_throw _
  · exact only_throw _
  · exact only_throw _
  · exact only_pure _

theorem only_getOTP {phoneHash : String}
    (hop : allowed (.otpGetItem phoneHash)) :
    Only allowed (getOTP phoneHash) := by
  refine only_request_bind hop ?_
  rintro (err | (_ | item))
  · exact only_throw _
  · exact only_throw _
  · exact only_pure _

theorem only_incrementAttempts {phoneHash : String}
    (hop : allowed (.otpUpdateItem phoneHash)) :
    Only allowed (incrementAttempts phoneHash) := by
  refine only_request_bind hop ?_
  rintro (err | done)
  · exact only_throw _
  · exact only_pure _

theorem only_getUserByID {userID : String}
    (hop : allowed (.usersGetItem userID)) :
    Only allowed (getUserByID userID) := by
  refine only_request_bind hop ?_
  rintro (err | (_ | item))
  · exact only_throw _
  · exact only_throw _
  · exact only_pure _

theorem only_findByPhone {phoneNumber : String}
    (hquery : allowed (.usersQuery phoneNumber)) (hctx : allowed .ctxErr)
    (hget : ∀ userID, allowed (.usersGetItem userID)) :
    Only allowed (findByPhone phoneNumber) := by
  refine only_request_bind hquery ?_
  rintro (err | (_ | ⟨userID, others⟩))
  · exact only_throw _
  · exact only_throw _
  refine only_request_bind hctx ?_
  rintro (err | done)
  · exact only_throw _
  · exact only_getUserByID (hget userID)

theorem only_listByUser {userID : String} (hclock : allowed .clockNow)
    (hquery : ∀ now, allowed (.sessionsQuery userID now)) :
    Only allowed (listByUser userID) := by
  refine only_request_bind hclock fun now => only_request_bind (hquery _) ?_
  rintro (err | rows)
  · exact only_throw _
  · exact only_pure _

theorem only_deleteSession {sessionID : String}
    (hop : allowed (.sessionsDeleteItem sessionID)) :
    Only allowed (deleteSession sessionID) := by
  refine only_request_bind hop ?_
  rintro (err | done)
  · exact only_throw _
  · exact only_pure _

theorem only_generateOTP (hop : allowed (.randInt otpMax)) :
    Only allowed generateOTP := by
  refine only_request_bind hop ?_
  rintro (err | number)
  · exact only_throw _
  · exact only_pure _

theorem only_generateRefreshToken (hop : allowed .randToken) :
    Only allowed generateRefreshToken := by
  refine only_request_bind hop ?_
  rintro (err | token)
  · exact only_throw _
  · exact only_pure _

theorem only_mintAccessToken {cfg : AuthServiceConfig}
    {userID sessionID : String} (hmint : ∀ op, isMint op = true → allowed op) :
    Only allowed (mintAccessToken cfg userID sessionID) := by
  refine only_request_bind (hmint _ rfl) ?_
  rintro (err | ⟨privateKey, keyID⟩)
  · exact only_throw _
  refine only_request_bind (hmint _ rfl) fun now =>
    only_request_bind (hmint _ rfl) fun jti =>
      only_request_bind (hmint _ rfl) ?_
  rintro (err | token)
  · exact only_throw _
  · exact only_pure _

end Adapters

end MessagingPlatform.AllowedRequests
