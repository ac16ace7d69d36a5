import MessagingPlatform.Core.Relational
import MessagingPlatform.System.Service

/-!
# The flows do not look at texts

Two runs of the service that differ in the texts of failures only.  The flows
branch on sentinels and never on texts, so both runs make the same requests
and return equal results or errors that are related by every relation which
their wrappings keep.
-/

namespace MessagingPlatform.ObliviousFlows

open Program
open Interleaving
open Relational
open Instants
open Errors
open Records
open Identifiers
open Primitives
open Tables
open Operations
open Stores
open Flows
open Service

section Definitions

/-- The same error, up to the text of a failure. -/
inductive SameText : GoError → GoError → Prop
  | refl (err : GoError) : SameText err err
  | plain (text text' : String) : SameText (.plain text) (.plain text')

/-- The same DynamoDB error, up to the text of a failure. -/
inductive SameDynamoError : DynamoError → DynamoError → Prop
  | refl (err : DynamoError) : SameDynamoError err err
  | failure (text text' : String) :
      SameDynamoError (.failure text) (.failure text')

/-- The same choice, up to the text of a failure. -/
inductive SameChoice : Choice → Choice → Prop
  | refl (choice : Choice) : SameChoice choice choice
  | fault (text text' : String) : SameChoice (.fault text) (.fault text')

/-- The requests of the limiter, whose failures are joined with
`ErrUnavailable`. -/
def limiterRequest : Op → Bool
  | .redisEval _ _ => true
  | .redisExists _ => true
  | _ => false

/-- The same choice, up to the text of a failure of another request than the
limiter's. -/
def SameLimiterChoice (op : Op) (left right : Choice) : Prop :=
  SameChoice left right ∧ (limiterRequest op = true → left = right)

variable (limiter : GoError → GoError → Prop)

/-- Responses that agree up to the texts of failures; `limiter` relates the
failures of the limiter's requests. -/
def Agree : (op : Op) → op.Res → op.Res → Prop
  | .clockNow => Eq
  | .uuidNewString => Eq
  | .randInt _ => SameResult SameText Eq
  | .randToken => SameResult SameText Eq
  | .ctxErr => SameResult SameText Eq
  | .redisEval _ _ => SameResult limiter Eq
  | .redisExists _ => SameResult limiter Eq
  | .redisSet _ _ => SameResult SameText Eq
  | .otpPutItem _ _ _ => SameResult SameDynamoError Eq
  | .otpGetItem _ => SameResult SameDynamoError Eq
  | .otpUpdateItem _ => SameResult SameDynamoError Eq
  | .verifyOTPMAC _ _ _ _ => Eq
  | .usersQuery _ => SameResult SameDynamoError Eq
  | .usersGetItem _ => SameResult SameDynamoError Eq
  | .sessionsGetItem _ => SameResult SameDynamoError Eq
  | .sessionsQuery _ _ => SameResult SameDynamoError Eq
  | .sessionsUpdateItem _ _ => SameResult SameDynamoError Eq
  | .sessionsDeleteItem _ => SameResult SameDynamoError Eq
  | .transactWriteItems _ => SameResult SameDynamoError Eq
  | .signingKey => SameResult SameText Eq
  | .signedString _ _ _ => SameResult SameText Eq
  | .sendOTP _ _ => SameResult SameText Eq

variable (same : GoError → GoError → Prop)

/-- Failures of the limiter's requests as its methods return them. -/
inductive Limited : GoError → GoError → Prop
  | errorf (format : String) (args : List String) {left right : GoError}
      (hfailures : limiter left right) :
      Limited (.errorf format args [left]) (.errorf format args [right])

/-- A relation of errors that the flows keep. -/
structure Congruence : Prop where
  refl : ∀ err, same err err
  failure : ∀ text text', same (.plain text) (.plain text')
  wrap : ∀ format args left right, same left right →
    same (.errorf format args [left]) (.errorf format args [right])
  unavailable : ∀ text left right, Limited limiter left right →
    same (unavailable text left) (unavailable text right)
  is : ∀ target left right, same left right →
    errorsIs target left = errorsIs target right

/-- The same outcome, up to related errors. -/
def SameOutcome : Outcome → Outcome → Prop
  | .requestOTP left, .requestOTP right => SameResult same Eq left right
  | .verifyOTP left, .verifyOTP right => SameResult same Eq left right
  | .refreshTokens left, .refreshTokens right => SameResult same Eq left right
  | .logout left, .logout right => SameResult same Eq left right
  | _, _ => False

end Definitions

section Operations

variable {limiter : GoError → GoError → Prop}

theorem sameResult_refl {Err A : Type} {sameError : Err → Err → Prop}
    (hrefl : ∀ err, sameError err err) (result : Except Err A) :
    SameResult sameError Eq result result := by
  cases result with
  | ok value => exact .ok rfl
  | error err => exact .error (hrefl err)

theorem agree_refl (hlimiter : ∀ err, limiter err err) (op : Op)
    (response : op.Res) : Agree limiter op response response := by
  cases op with
  | clockNow | uuidNewString | verifyOTPMAC => exact rfl
  | redisEval | redisExists => exact sameResult_refl hlimiter response
  | randInt | randToken | ctxErr | redisSet | signingKey | signedString
  | sendOTP => exact sameResult_refl .refl response
  | _ => exact sameResult_refl .refl response

/-- Failures agree, whatever their texts. -/
theorem agree_of_failure {op : Op} {text text' : String}
    {response response' : op.Res}
    (hlimiter : limiterRequest op = true →
      limiter (.plain text) (.plain text'))
    (hleft : op.failure text = some response)
    (hright : op.failure text' = some response') :
    Agree limiter op response response' := by
  cases op with
  | clockNow | uuidNewString | verifyOTPMAC => cases hleft
  | redisEval | redisExists =>
      cases hleft
      cases hright
      exact .error (hlimiter rfl)
  | _ =>
      cases hleft
      cases hright
      first
        | exact .error (.plain text text')
        | exact .error (.failure text text')

variable {cfg : AuthServiceConfig}

theorem agree_of_perform (hrefl : ∀ err, limiter err err) {op : Op}
    {choice choice' : Choice} {store after after' : Store}
    {response response' : op.Res}
    (hlimiter : limiterRequest op = true → choice = choice' ∨
      ∀ text text', limiter (.plain text) (.plain text'))
    (hsame : SameChoice choice choice')
    (hleft : perform cfg op choice store = some (response, after))
    (hright : perform cfg op choice' store = some (response', after')) :
    Agree limiter op response response' ∧ after = after' := by
  cases hsame with
  | refl =>
      rw [hleft, Option.some.injEq, Prod.mk.injEq] at hright
      obtain ⟨rfl, rfl⟩ := hright
      exact ⟨agree_refl hrefl op response, rfl⟩
  | fault text text' =>
      obtain ⟨failed, hfailed, heq⟩ := Option.map_eq_some_iff.mp hleft
      obtain ⟨failed', hfailed', heq'⟩ := Option.map_eq_some_iff.mp hright
      cases heq
      cases heq'
      refine ⟨agree_of_failure ?_ hfailed hfailed', rfl⟩
      intro hrequest
      rcases hlimiter hrequest with htext | hall
      · cases htext
        exact hrefl _
      · exact hall text text'

end Operations

section Adapters

variable (limiter same : GoError → GoError → Prop)

/-- A flow does the same in both runs. -/
def Oblivious {A : Type} (flow : Flow A) : Prop :=
  RelatedFlow (Agree limiter) same Eq flow flow

variable {limiter same} {A B : Type} {cfg : AuthServiceConfig}

theorem related_request (op : Op) :
    RelatedFlow (Agree limiter) same (Agree limiter op) (request op)
      (request op) :=
  relatedFlow_lift (related_perform op)

theorem oblivious_pure (value : A) :
    Oblivious limiter same (pure value : Flow A) :=
  relatedFlow_pure rfl

theorem oblivious_clockNow :
    Oblivious limiter same (request .clockNow : Flow Time) :=
  related_request .clockNow

theorem oblivious_uuidNewString :
    Oblivious limiter same (request .uuidNewString : Flow String) :=
  related_request .uuidNewString

theorem Oblivious.bind {flow : Flow A} {next : A → Flow B}
    (hflow : Oblivious limiter same flow)
    (hnext : ∀ value, Oblivious limiter same (next value)) :
    Oblivious limiter same (flow >>= next) := by
  refine RelatedFlow.bind hflow ?_
  rintro value _ rfl
  exact hnext value

theorem Oblivious.wrapError {inner : GoError → GoError → Prop}
    {wrap : GoError → GoError} {flow : Flow A}
    (hflow : Oblivious limiter inner flow)
    (hwrap : ∀ left right, inner left right →
      same (wrap left) (wrap right)) :
    Oblivious limiter same (wrapError wrap flow) := by
  refine Related.bind hflow ?_
  rintro _ _ (hvalue | hsame)
  · exact .pure (.ok hvalue)
  · exact .pure (.error (hwrap _ _ hsame))

/-- A flow whose error is kept as a value. -/
theorem Oblivious.attempt {inner : GoError → GoError → Prop} {flow : Flow A}
    (hflow : Oblivious limiter inner flow) :
    RelatedFlow (Agree limiter) same (SameResult inner Eq) (attempt flow)
      (attempt flow) :=
  relatedFlow_lift hflow

/-- A flow that goes on in the same way after a failure. -/
theorem Oblivious.ignore {flow : Flow A} {next : Flow B}
    (hflow : Oblivious limiter same flow)
    (hnext : Oblivious limiter same next) :
    Oblivious limiter same (do let _ ← Stores.attempt flow; next) :=
  RelatedFlow.bind hflow.attempt fun _ _ _ => hnext

/-- A result whose value or error decides the rest. -/
theorem oblivious_result {Err C : Type} {sameError : Err → Err → Prop}
    {flow : Flow (Except Err C)} {next : Except Err C → Flow B}
    (hflow : RelatedFlow (Agree limiter) same (SameResult sameError Eq) flow
      flow)
    (hok : ∀ value, Oblivious limiter same (next (.ok value)))
    (herror : ∀ left right, sameError left right →
      RelatedFlow (Agree limiter) same Eq (next (.error left))
        (next (.error right))) :
    Oblivious limiter same (flow >>= next) := by
  refine RelatedFlow.bind hflow ?_
  rintro _ _ (hvalue | hsame)
  · obtain rfl := hvalue
    exact hok _
  · exact herror _ _ hsame

theorem limited_checkAndIncrement (key : RedisKey)
    (limit windowSeconds : ℕ) :
    Oblivious limiter (Limited limiter)
      (checkAndIncrement key limit windowSeconds) :=
  oblivious_result (related_request (.redisEval key windowSeconds))
    (fun _ => oblivious_pure _)
    fun _ _ hsame => relatedFlow_throw (.errorf _ _ hsame)

theorem limited_checkLockout (key : RedisKey) :
    Oblivious limiter (Limited limiter) (checkLockout key) :=
  oblivious_result (related_request (.redisExists key))
    (fun _ => oblivious_pure _)
    fun _ _ hsame => relatedFlow_throw (.errorf _ _ hsame)

variable (hcong : Congruence limiter same)

include hcong

theorem Congruence.throws (err : GoError) :
    Oblivious limiter same (throw err : Flow A) :=
  relatedFlow_throw (hcong.refl err)

/-- A flow whose error is wrapped with `%w`. -/
theorem Congruence.wraps {flow : Flow A} {text : String}
    (hflow : Oblivious limiter same flow) :
    Oblivious limiter same (wrapError (wrapped text) flow) :=
  hflow.wrapError fun _ _ hsame => hcong.wrap text [] _ _ hsame

/-- A throw of a failure that is wrapped with `%w`. -/
theorem Congruence.throw_failure {format : String} {args : List String}
    {left right : GoError} (hsame : SameText left right) :
    RelatedFlow (Agree limiter) same Eq
      (throw (.errorf format args [left]) : Flow A)
      (throw (.errorf format args [right])) := by
  cases hsame with
  | refl => exact hcong.throws _
  | plain text text' =>
      exact relatedFlow_throw
        (hcong.wrap format args _ _ (hcong.failure text text'))

/-- A throw of a DynamoDB error that is wrapped with `%w`. -/
theorem Congruence.throw_dynamo {format : String} {left right : DynamoError}
    (hsame : SameDynamoError left right) :
    RelatedFlow (Agree limiter) same Eq
      (throw (.errorf format [] [left.toGoError]) : Flow A)
      (throw (.errorf format [] [right.toGoError])) := by
  cases hsame with
  | refl => exact hcong.throws _
  | failure text text' =>
      exact relatedFlow_throw
        (hcong.wrap format [] _ _ (hcong.failure text text'))

theorem oblivious_setLockout (key : RedisKey) (ttlSeconds : ℕ) :
    Oblivious limiter same (setLockout key ttlSeconds) :=
  oblivious_result (related_request (.redisSet key ttlSeconds))
    (fun _ => oblivious_pure _) fun _ _ hsame => hcong.throw_failure hsame

theorem oblivious_revoke (jti : String) :
    Oblivious limiter same (revoke jti) :=
  oblivious_result (related_request (.redisSet (.revokedJTI jti) revokedJTITTL))
    (fun _ => oblivious_pure _) fun _ _ hsame => hcong.throw_failure hsame

theorem oblivious_createOTP (record : OTPRecord) :
    Oblivious limiter same (createOTP record) := by
  refine oblivious_clockNow.bind fun now => ?_
  refine oblivious_result (related_request
    (.otpPutItem record.phoneHash (toOTPItem record) (format now)))
    (fun _ => oblivious_pure _) ?_
  intro left right hsame
  cases hsame with
  | refl => cases left <;> exact hcong.throws _
  | failure text text' => exact hcong.throw_dynamo (.failure text text')

theorem oblivious_getOTP (phoneHash : String) :
    Oblivious limiter same (getOTP phoneHash) := by
  refine oblivious_result (related_request (.otpGetItem phoneHash)) ?_
    fun _ _ hsame => hcong.throw_dynamo hsame
  intro found
  cases found with
  | none => exact hcong.throws _
  | some item => exact oblivious_pure _

theorem oblivious_incrementAttempts (phoneHash : String) :
    Oblivious limiter same (incrementAttempts phoneHash) :=
  oblivious_result (related_request (.otpUpdateItem phoneHash))
    (fun _ => oblivious_pure _) fun _ _ hsame => hcong.throw_dynamo hsame

theorem oblivious_getUserByID (userID : String) :
    Oblivious limiter same (getUserByID userID) := by
  refine oblivious_result (related_request (.usersGetItem userID)) ?_
    fun _ _ hsame => hcong.throw_dynamo hsame
  intro found
  cases found with
  | none => exact hcong.throws _
  | some item => exact oblivious_pure _

theorem oblivious_findByPhone (phoneNumber : String) :
    Oblivious limiter same (findByPhone phoneNumber) := by
  refine oblivious_result (related_request (.usersQuery phoneNumber)) ?_
    fun _ _ hsame => hcong.throw_dynamo hsame
  intro userIDs
  cases userIDs with
  | nil => exact hcong.throws _
  | cons userID _ =>
      exact oblivious_result (related_request .ctxErr)
        (fun _ => oblivious_getUserByID hcong userID)
        fun _ _ hsame => hcong.throw_failure hsame

theorem oblivious_getSessionByID (sessionID : String) :
    Oblivious limiter same (getSessionByID sessionID) := by
  refine oblivious_result (related_request (.sessionsGetItem sessionID)) ?_
    fun _ _ hsame => hcong.throw_dynamo hsame
  intro found
  cases found with
  | none => exact hcong.throws _
  | some item => exact oblivious_pure _

theorem oblivious_listByUser (userID : String) :
    Oblivious limiter same (listByUser userID) := by
  refine oblivious_clockNow.bind fun now => ?_
  exact oblivious_result (related_request (.sessionsQuery userID (format now)))
    (fun _ => oblivious_pure _) fun _ _ hsame => hcong.throw_dynamo hsame

theorem oblivious_updateSession (sessionID : String) (update : SessionUpdate) :
    Oblivious limiter same (updateSession sessionID update) :=
  oblivious_result (related_request (.sessionsUpdateItem sessionID update))
    (fun _ => oblivious_pure _) fun _ _ hsame => hcong.throw_dynamo hsame

theorem oblivious_deleteSession (sessionID : String) :
    Oblivious limiter same (deleteSession sessionID) :=
  oblivious_result (related_request (.sessionsDeleteItem sessionID))
    (fun _ => oblivious_pure _) fun _ _ hsame => hcong.throw_dynamo hsame

theorem Congruence.classify (operation : String) (itemNames : List String)
    {left right : DynamoError} (hsame : SameDynamoError left right) :
    same (classifyTxError operation itemNames left)
      (classifyTxError operation itemNames right) := by
  cases hsame with
  | refl => exact hcong.refl _
  | failure text text' =>
      exact hcong.wrap _ _ _ _ (hcong.failure text text')

theorem oblivious_verifyOTPAndCreateUser (params : RegistrationParams) :
    Oblivious limiter same (verifyOTPAndCreateUser params) :=
  oblivious_result
    (related_request (.transactWriteItems (registrationItems params)))
    (fun _ => oblivious_pure _)
    fun _ _ hsame => relatedFlow_throw (hcong.classify _ _ hsame)

theorem oblivious_verifyOTPAndCreateSession (params : LoginParams) :
    Oblivious limiter same (verifyOTPAndCreateSession params) :=
  oblivious_result (related_request (.transactWriteItems (loginItems params)))
    (fun _ => oblivious_pure _)
    fun _ _ hsame => relatedFlow_throw (hcong.classify _ _ hsame)

theorem oblivious_generateOTP : Oblivious limiter same generateOTP :=
  oblivious_result (related_request (.randInt otpMax))
    (fun _ => oblivious_pure _)
    fun _ _ hsame => hcong.throw_failure hsame

theorem oblivious_generateRefreshToken :
    Oblivious limiter same generateRefreshToken :=
  oblivious_result (related_request .randToken) (fun _ => oblivious_pure _)
    fun _ _ hsame => hcong.throw_failure hsame

theorem oblivious_mintAccessToken (userID sessionID : String) :
    Oblivious limiter same (mintAccessToken cfg userID sessionID) := by
  refine oblivious_result (related_request .signingKey) ?_
    fun _ _ hsame => hcong.throw_failure hsame
  rintro ⟨privateKey, keyID⟩
  refine oblivious_clockNow.bind fun now => ?_
  refine oblivious_uuidNewString.bind fun jti => ?_
  exact oblivious_result (related_request (.signedString privateKey keyID _))
    (fun _ => oblivious_pure _)
    fun _ _ hsame => hcong.throw_failure hsame

end Adapters

section Flows

variable {limiter same : GoError → GoError → Prop}
variable {A : Type} {cfg : AuthServiceConfig}
variable (hcong : Congruence limiter same)

include hcong

/-- A flow that goes on in one way after an error with a certain sentinel and
wraps every other error. -/
theorem Congruence.branch {target : Sentinel} {text : String}
    {left right : GoError} {onTarget : Flow A}
    (hsame : same left right) (htarget : Oblivious limiter same onTarget) :
    RelatedFlow (Agree limiter) same Eq
      (if errorsIs target left then onTarget else throw (wrapped text left))
      (if errorsIs target right then onTarget
        else throw (wrapped text right)) := by
  rw [hcong.is target left right hsame]
  split
  · exact htarget
  · exact relatedFlow_throw (hcong.wrap text [] _ _ hsame)

theorem oblivious_checkRequestRateLimits (phoneHash clientIP : String) :
    Oblivious limiter same (checkRequestRateLimits phoneHash clientIP) := by
  refine ((limited_checkAndIncrement _ _ _).wrapError
    (hcong.unavailable _)).bind fun allowed => ?_
  cases allowed with
  | false => exact hcong.throws _
  | true =>
      refine oblivious_result (limited_checkAndIncrement _ _ _).attempt ?_
        fun _ _ _ => oblivious_pure ()
      intro ipAllowed
      cases ipAllowed with
      | false => exact hcong.throws _
      | true => exact oblivious_pure ()

theorem oblivious_existingOTP (phoneHash : String) :
    Oblivious limiter same (existingOTP phoneHash) := by
  refine (hcong.wraps (oblivious_getOTP hcong phoneHash)).bind
    fun existing => ?_
  split
  · exact hcong.throws _
  · exact oblivious_pure _

theorem oblivious_requestOTP (phone clientIP : String) :
    Oblivious limiter same (requestOTP cfg phone clientIP) := by
  unfold requestOTP
  split
  · exact hcong.throws _
  · refine (oblivious_checkRequestRateLimits hcong _ clientIP).bind fun _ => ?_
    refine (hcong.wraps (oblivious_generateOTP hcong)).bind fun otp => ?_
    refine oblivious_clockNow.bind fun now => ?_
    refine oblivious_result (oblivious_createOTP hcong _).attempt ?_
      fun _ _ hsame => hcong.branch hsame
        (oblivious_existingOTP hcong _)
    intro created
    exact RelatedFlow.bind (related_request (.sendOTP phone otp))
      fun _ _ _ => oblivious_pure _

theorem oblivious_checkVerifyRateLimits (phoneHash : String) :
    Oblivious limiter same (checkVerifyRateLimits phoneHash) := by
  refine ((limited_checkAndIncrement _ _ _).wrapError
    (hcong.unavailable _)).bind fun allowed => ?_
  cases allowed with
  | false => exact hcong.throws _
  | true =>
      refine ((limited_checkLockout _).wrapError
        (hcong.unavailable _)).bind fun locked => ?_
      cases locked with
      | false => exact oblivious_pure ()
      | true => exact hcong.throws _

theorem oblivious_readOTPRecord (phoneHash : String) :
    Oblivious limiter same (readOTPRecord phoneHash) :=
  oblivious_result (oblivious_getOTP hcong phoneHash).attempt
    (fun _ => oblivious_pure _)
    fun _ _ hsame => hcong.branch hsame (hcong.throws _)

theorem oblivious_validateOTPRecord (phoneHash otpCandidate : String) :
    Oblivious limiter same (validateOTPRecord phoneHash otpCandidate) := by
  refine (oblivious_readOTPRecord hcong phoneHash).bind fun record => ?_
  split
  · exact hcong.throws _
  split
  · exact (oblivious_setLockout hcong _ _).ignore (hcong.throws _)
  split
  · exact hcong.throws _
  · refine oblivious_clockNow.bind fun now => ?_
    split
    · exact hcong.throws _
    · refine RelatedFlow.bind (related_request (.verifyOTPMAC otpCandidate
        phoneHash record.expiresAt record.otpMAC)) ?_
      rintro matched _ rfl
      cases matched with
      | true => exact oblivious_pure record
      | false =>
          exact (oblivious_incrementAttempts hcong phoneHash).ignore
            (hcong.throws _)

theorem oblivious_evictSessions (deleteText revokeText : String)
    (sessions : List SessionRecord) :
    Oblivious limiter same (evictSessions deleteText revokeText sessions) := by
  induction sessions with
  | nil => exact oblivious_pure ()
  | cons session rest ih =>
      refine Oblivious.bind ?_ fun _ => ih
      exact (hcong.wraps (oblivious_deleteSession hcong _)).bind
        fun _ => hcong.wraps (oblivious_revoke hcong _)

theorem oblivious_verifyOTPExistingUser (phoneHash : String)
    (record : OTPRecord) (user : UserRecord) (deviceID : String) :
    Oblivious limiter same
      (verifyOTPExistingUser cfg phoneHash record user deviceID) := by
  refine (hcong.wraps (oblivious_listByUser hcong user.userID)).bind
    fun sessions => ?_
  refine (oblivious_evictSessions hcong _ _ _).bind fun _ => ?_
  refine (oblivious_evictSessions hcong _ _ _).bind fun _ => ?_
  refine oblivious_uuidNewString.bind fun sessionID => ?_
  refine oblivious_clockNow.bind fun now => ?_
  refine (hcong.wraps (oblivious_generateRefreshToken hcong)).bind
    fun refreshToken => ?_
  refine (hcong.wraps (oblivious_verifyOTPAndCreateSession hcong _)).bind
    fun _ => ?_
  refine (hcong.wraps (oblivious_mintAccessToken hcong _ _)).bind
    fun minted => ?_
  exact oblivious_pure _

theorem oblivious_verifyOTPNewUser (phone phoneHash : String)
    (record : OTPRecord) (deviceID : String) :
    Oblivious limiter same
      (verifyOTPNewUser cfg phone phoneHash record deviceID) := by
  refine oblivious_uuidNewString.bind fun userID => ?_
  refine oblivious_uuidNewString.bind fun sessionID => ?_
  refine oblivious_clockNow.bind fun now => ?_
  refine (hcong.wraps (oblivious_generateRefreshToken hcong)).bind
    fun refreshToken => ?_
  refine oblivious_result
    (oblivious_verifyOTPAndCreateUser hcong _).attempt ?_ ?_
  · intro registered
    refine (hcong.wraps (oblivious_mintAccessToken hcong _ _)).bind
      fun minted => ?_
    exact oblivious_pure _
  · intro left right hsame
    refine hcong.branch hsame ?_
    exact (hcong.wraps (oblivious_findByPhone hcong phone)).bind fun user =>
      oblivious_verifyOTPExistingUser hcong phoneHash record user deviceID

theorem oblivious_verifyOTP (phone otpCandidate deviceID : String) :
    Oblivious limiter same (verifyOTP cfg phone otpCandidate deviceID) := by
  unfold verifyOTP
  split
  · exact hcong.throws _
  split
  · exact hcong.throws _
  refine (oblivious_checkVerifyRateLimits hcong _).bind fun _ => ?_
  refine (oblivious_validateOTPRecord hcong _ otpCandidate).bind
    fun record => ?_
  exact oblivious_result (oblivious_findByPhone hcong phone).attempt
    (fun user => oblivious_verifyOTPExistingUser hcong _ record user deviceID)
    fun _ _ hsame => hcong.branch hsame
      (oblivious_verifyOTPNewUser hcong phone _ record deviceID)

theorem oblivious_lookupSession (sessionID : String) :
    Oblivious limiter same (lookupSession sessionID) :=
  oblivious_result (oblivious_getSessionByID hcong sessionID).attempt
    (fun _ => oblivious_pure _)
    fun _ _ hsame => hcong.branch hsame (hcong.throws _)

theorem oblivious_rotateRefreshToken (userID sessionID : String)
    (session : SessionRecord) :
    Oblivious limiter same
      (rotateRefreshToken cfg userID sessionID session) := by
  refine (hcong.wraps (oblivious_generateRefreshToken hcong)).bind
    fun newRefresh => ?_
  refine oblivious_clockNow.bind fun now => ?_
  refine (hcong.wraps (oblivious_updateSession hcong _ _)).bind fun _ => ?_
  refine (hcong.wraps (oblivious_mintAccessToken hcong _ _)).bind
    fun minted => ?_
  exact oblivious_pure _

theorem oblivious_refreshTokens (accessToken refreshToken deviceID : String) :
    Oblivious limiter same
      (refreshTokens cfg accessToken refreshToken deviceID) := by
  refine oblivious_clockNow.bind fun validatedAt => ?_
  split
  · exact hcong.throws _
  refine (oblivious_lookupSession hcong _).bind fun session => ?_
  split
  · exact hcong.throws _
  split
  · exact hcong.throws _
  refine oblivious_clockNow.bind fun now => ?_
  split
  · exact hcong.throws _
  split
  · exact oblivious_rotateRefreshToken hcong _ _ session
  split
  · exact (oblivious_deleteSession hcong _).ignore
      ((oblivious_revoke hcong _).ignore (hcong.throws _))
  · exact hcong.throws _

theorem oblivious_logout (accessToken : String) :
    Oblivious limiter same (logout cfg accessToken) := by
  refine oblivious_clockNow.bind fun now => ?_
  split
  · exact hcong.throws _
  · exact (oblivious_deleteSession hcong _).ignore
      (hcong.wraps (oblivious_revoke hcong _))

/-- A request is served in the same way in both runs. -/
theorem related_program (req : Request) :
    Related (Agree limiter) (SameOutcome same) (program cfg req)
      (program cfg req) := by
  cases req with
  | requestOTP phone clientIP =>
      exact Related.bind (oblivious_requestOTP hcong phone clientIP)
        fun _ _ hsame => .pure hsame
  | verifyOTP phone otpCandidate deviceID =>
      exact Related.bind (oblivious_verifyOTP hcong phone otpCandidate deviceID)
        fun _ _ hsame => .pure hsame
  | refreshTokens accessToken refreshToken deviceID =>
      exact Related.bind
        (oblivious_refreshTokens hcong accessToken refreshToken deviceID)
        fun _ _ hsame => .pure hsame
  | logout accessToken =>
      exact Related.bind (oblivious_logout hcong accessToken)
        fun _ _ hsame => .pure hsame

end Flows

end MessagingPlatform.ObliviousFlows
