import MessagingPlatform.Adapter.Stores

/-!
# Rules for the store adapters

One rule for each adapter: which requests it makes and what it returns for
each response.  The flows are judged with these rules only; no proof about a
flow looks into an adapter.
-/

namespace MessagingPlatform.StoreRules

open Program
open Instants
open Errors
open Records
open Identifiers
open Primitives
open Tables
open Operations
open Stores

variable {A : Type} {guard : History → Op → Prop} {history : History}

section Combinators

theorem sat_request {op : Op} {post : History → Except GoError op.Res → Prop} :
    Sat guard post (request op).run history ↔
      guard history op ∧
        ∀ response, post (⟨op, response⟩ :: history) (.ok response) := by
  unfold request
  rw [sat_run_lift, sat_perform]

theorem sat_wrapError {post : History → Except GoError A → Prop}
    (wrap : GoError → GoError) (flow : Flow A) :
    Sat guard post (wrapError wrap flow).run history ↔
      Sat guard (fun reached outcome =>
        post reached (outcome.mapError wrap)) flow.run history := by
  unfold wrapError
  rw [ExceptT.run_mk, sat_bind]
  constructor <;>
  · intro hsat
    refine hsat.mono ?_
    rintro reached (err | value) hreached <;> exact hreached

theorem sat_attempt {post : History → Except GoError (Except GoError A) → Prop}
    (flow : Flow A) :
    Sat guard post (attempt flow).run history ↔
      Sat guard (fun reached outcome => post reached (.ok outcome)) flow.run
        history := by
  unfold attempt
  exact sat_run_lift flow.run history

end Combinators

section Redis

theorem sat_checkAndIncrement {post : History → Except GoError Bool → Prop}
    {key : RedisKey} {limit windowSeconds : ℕ}
    (hguard : guard history (.redisEval key windowSeconds))
    (herror : ∀ cause err,
      post (⟨.redisEval key windowSeconds, .error cause⟩ :: history)
        (.error err))
    (hok : ∀ count,
      post (⟨.redisEval key windowSeconds, .ok count⟩ :: history)
        (.ok (decide (count ≤ limit)))) :
    Sat guard post (checkAndIncrement key limit windowSeconds).run
      history := by
  unfold checkAndIncrement
  rw [sat_run_bind, sat_request]
  refine ⟨hguard, ?_⟩
  rintro (cause | count)
  · exact herror cause _
  · exact hok count

theorem sat_checkLockout {post : History → Except GoError Bool → Prop}
    {key : RedisKey} (hguard : guard history (.redisExists key))
    (herror : ∀ cause err,
      post (⟨.redisExists key, .error cause⟩ :: history) (.error err))
    (hok : ∀ found,
      post (⟨.redisExists key, .ok found⟩ :: history) (.ok found)) :
    Sat guard post (checkLockout key).run history := by
  unfold checkLockout
  rw [sat_run_bind, sat_request]
  refine ⟨hguard, ?_⟩
  rintro (cause | found)
  · exact herror cause _
  · exact hok found

theorem sat_setLockout {post : History → Except GoError Unit → Prop}
    {key : RedisKey} {ttlSeconds : ℕ}
    (hguard : guard history (.redisSet key ttlSeconds))
    (herror : ∀ cause err,
      post (⟨.redisSet key ttlSeconds, .error cause⟩ :: history) (.error err))
    (hok : post (⟨.redisSet key ttlSeconds, .ok ()⟩ :: history) (.ok ())) :
    Sat guard post (setLockout key ttlSeconds).run history := by
  unfold setLockout
  rw [sat_run_bind, sat_request]
  refine ⟨hguard, ?_⟩
  rintro (cause | found)
  · exact herror cause _
  · exact hok

theorem sat_revoke {post : History → Except GoError Unit → Prop} {jti : String}
    (hguard : guard history (.redisSet (.revokedJTI jti) revokedJTITTL))
    (herror : ∀ cause err,
      post (⟨.redisSet (.revokedJTI jti) revokedJTITTL, .error cause⟩ ::
        history) (.error err))
    (hok : post (⟨.redisSet (.revokedJTI jti) revokedJTITTL, .ok ()⟩ ::
      history) (.ok ())) :
    Sat guard post (revoke jti).run history := by
  unfold revoke
  rw [sat_run_bind, sat_request]
  refine ⟨hguard, ?_⟩
  rintro (cause | done)
  · exact herror cause _
  · exact hok

end Redis

section OTPStore

theorem sat_createOTP {post : History → Except GoError Unit → Prop}
    {record : OTPRecord} (hclock : guard history .clockNow)
    (hguard : ∀ now, guard (⟨.clockNow, now⟩ :: history)
      (.otpPutItem record.phoneHash (toOTPItem record) (format now)))
    (herror : ∀ now cause err,
      post (⟨.otpPutItem record.phoneHash (toOTPItem record) (format now),
        .error cause⟩ :: ⟨.clockNow, now⟩ :: history) (.error err))
    (hok : ∀ now,
      post (⟨.otpPutItem record.phoneHash (toOTPItem record) (format now),
        .ok ()⟩ :: ⟨.clockNow, now⟩ :: history) (.ok ())) :
    Sat guard post (createOTP record).run history := by
  unfold createOTP
  rw [sat_run_bind, sat_request]
  refine ⟨hclock, fun now => ?_⟩
  change Sat guard post (_ >>= _ : Flow Unit).run _
  rw [sat_run_bind, sat_request]
  refine ⟨hguard now, ?_⟩
  rintro (cause | done)
  · cases cause with
    | _ => exact herror now _ _
  · exact hok now

theorem sat_getOTP {post : History → Except GoError OTPRecord → Prop}
    {phoneHash : String} (hguard : guard history (.otpGetItem phoneHash))
    (herror : ∀ cause err,
      post (⟨.otpGetItem phoneHash, .error cause⟩ :: history) (.error err))
    (hnone : ∀ err,
      post (⟨.otpGetItem phoneHash, .ok none⟩ :: history) (.error err))
    (hsome : ∀ item,
      post (⟨.otpGetItem phoneHash, .ok (some item)⟩ :: history)
        (.ok (fromOTPItem phoneHash item))) :
    Sat guard post (getOTP phoneHash).run history := by
  unfold getOTP
  rw [sat_run_bind, sat_request]
  refine ⟨hguard, ?_⟩
  rintro (cause | _ | item)
  · exact herror cause _
  · exact hnone _
  · exact hsome item

theorem sat_incrementAttempts {post : History → Except GoError Unit → Prop}
    {phoneHash : String} (hguard : guard history (.otpUpdateItem phoneHash))
    (hpost : ∀ response outcome,
      post (⟨.otpUpdateItem phoneHash, response⟩ :: history) outcome) :
    Sat guard post (incrementAttempts phoneHash).run history := by
  unfold incrementAttempts
  rw [sat_run_bind, sat_request]
  refine ⟨hguard, ?_⟩
  rintro (cause | done)
  · exact hpost _ _
  · exact hpost _ _

end OTPStore

section UserStore

/-- The requests of a lookup that finds a user, newest first. -/
def foundEntries (phone userID : String) (others : List String)
    (item : UserItem) : History :=
  [⟨.usersGetItem userID, .ok (some item)⟩, ⟨.ctxErr, .ok ()⟩,
    ⟨.usersQuery phone, .ok (userID :: others)⟩]

/-- A request of a phone lookup. -/
def isLookup : Op → Bool
  | .usersQuery _ => true
  | .ctxErr => true
  | .usersGetItem _ => true
  | _ => false

theorem sat_findByPhone {post : History → Except GoError UserRecord → Prop}
    {phone : String}
    (hquery : guard history (.usersQuery phone))
    (hctx : ∀ reached, guard reached .ctxErr)
    (hget : ∀ reached userID, guard reached (.usersGetItem userID))
    (herror : ∀ added err, (∀ entry ∈ added, isLookup entry.1 = true) →
      post (added ++ history) (.error err))
    (hfound : ∀ userID others item,
      post (foundEntries phone userID others item ++ history)
        (.ok (fromUserItem userID item))) :
    Sat guard post (findByPhone phone).run history := by
  unfold findByPhone
  rw [sat_run_bind, sat_request]
  refine ⟨hquery, ?_⟩
  rintro (cause | _ | ⟨userID, others⟩)
  · exact herror [⟨.usersQuery phone, .error cause⟩] _ (by simp [isLookup])
  · exact herror [⟨.usersQuery phone, .ok []⟩] _ (by simp [isLookup])
  · change Sat guard post (_ >>= _ : Flow UserRecord).run _
    rw [sat_run_bind, sat_request]
    refine ⟨hctx _, ?_⟩
    rintro (cause | _)
    · exact herror [⟨.ctxErr, .error cause⟩,
        ⟨.usersQuery phone, .ok (userID :: others)⟩] _ (by simp [isLookup])
    · change Sat guard post (getUserByID userID).run _
      unfold getUserByID
      rw [sat_run_bind, sat_request]
      refine ⟨hget _ userID, ?_⟩
      rintro (cause | _ | item)
      · exact herror [⟨.usersGetItem userID, .error cause⟩, ⟨.ctxErr, .ok ()⟩,
          ⟨.usersQuery phone, .ok (userID :: others)⟩] _ (by simp [isLookup])
      · exact herror [⟨.usersGetItem userID, .ok none⟩, ⟨.ctxErr, .ok ()⟩,
          ⟨.usersQuery phone, .ok (userID :: others)⟩] _ (by simp [isLookup])
      · exact hfound userID others item

end UserStore

section SessionStore

theorem sat_getSessionByID
    {post : History → Except GoError SessionRecord → Prop}
    {sessionID : String} (hguard : guard history (.sessionsGetItem sessionID))
    (herror : ∀ cause err,
      post (⟨.sessionsGetItem sessionID, .error cause⟩ :: history)
        (.error err))
    (hnone : ∀ err,
      post (⟨.sessionsGetItem sessionID, .ok none⟩ :: history) (.error err))
    (hsome : ∀ item,
      post (⟨.sessionsGetItem sessionID, .ok (some item)⟩ :: history)
        (.ok (fromSessionItem sessionID item))) :
    Sat guard post (getSessionByID sessionID).run history := by
  unfold getSessionByID
  rw [sat_run_bind, sat_request]
  refine ⟨hguard, ?_⟩
  rintro (cause | _ | item)
  · exact herror cause _
  · exact hnone _
  · exact hsome item

/-- The sessions of a query answer, as records. -/
def listedSessions (rows : List (String × SessionItem)) :
    List SessionRecord :=
  rows.map fun row => fromSessionItem row.1 row.2

theorem sat_listByUser
    {post : History → Except GoError (List SessionRecord) → Prop}
    {userID : String} (hclock : guard history .clockNow)
    (hguard : ∀ now, guard (⟨.clockNow, now⟩ :: history)
      (.sessionsQuery userID (format now)))
    (herror : ∀ now cause err,
      post (⟨.sessionsQuery userID (format now), .error cause⟩ ::
        ⟨.clockNow, now⟩ :: history) (.error err))
    (hok : ∀ now rows,
      post (⟨.sessionsQuery userID (format now), .ok rows⟩ ::
        ⟨.clockNow, now⟩ :: history) (.ok (listedSessions rows))) :
    Sat guard post (listByUser userID).run history := by
  unfold listByUser
  rw [sat_run_bind, sat_request]
  refine ⟨hclock, fun now => ?_⟩
  change Sat guard post (_ >>= _ : Flow (List SessionRecord)).run _
  rw [sat_run_bind, sat_request]
  refine ⟨hguard now, ?_⟩
  rintro (cause | rows)
  · exact herror now cause _
  · exact hok now rows

theorem sat_updateSession {post : History → Except GoError Unit → Prop}
    {sessionID : String} {update : SessionUpdate}
    (hguard : guard history (.sessionsUpdateItem sessionID update))
    (herror : ∀ cause err,
      post (⟨.sessionsUpdateItem sessionID update, .error cause⟩ :: history)
        (.error err))
    (hok : post (⟨.sessionsUpdateItem sessionID update, .ok ()⟩ :: history)
      (.ok ())) :
    Sat guard post (updateSession sessionID update).run history := by
  unfold updateSession
  rw [sat_run_bind, sat_request]
  refine ⟨hguard, ?_⟩
  rintro (cause | done)
  · exact herror cause _
  · exact hok

theorem sat_deleteSession {post : History → Except GoError Unit → Prop}
    {sessionID : String}
    (hguard : guard history (.sessionsDeleteItem sessionID))
    (herror : ∀ cause err,
      post (⟨.sessionsDeleteItem sessionID, .error cause⟩ :: history)
        (.error err))
    (hok : post (⟨.sessionsDeleteItem sessionID, .ok ()⟩ :: history)
      (.ok ())) :
    Sat guard post (deleteSession sessionID).run history := by
  unfold deleteSession
  rw [sat_run_bind, sat_request]
  refine ⟨hguard, ?_⟩
  rintro (cause | done)
  · exact herror cause _
  · exact hok

end SessionStore

section Transactor

theorem sat_verifyOTPAndCreateUser
    {post : History → Except GoError Unit → Prop}
    {params : RegistrationParams}
    (hguard : guard history (.transactWriteItems (registrationItems params)))
    (herror : ∀ cause err,
      post (⟨.transactWriteItems (registrationItems params), .error cause⟩ ::
        history) (.error err))
    (hok : post (⟨.transactWriteItems (registrationItems params), .ok ()⟩ ::
      history) (.ok ())) :
    Sat guard post (verifyOTPAndCreateUser params).run history := by
  unfold verifyOTPAndCreateUser
  rw [sat_run_bind, sat_request]
  refine ⟨hguard, ?_⟩
  rintro (cause | done)
  · exact herror cause _
  · exact hok

theorem sat_verifyOTPAndCreateSession
    {post : History → Except GoError Unit → Prop} {params : LoginParams}
    (hguard : guard history (.transactWriteItems (loginItems params)))
    (herror : ∀ cause err,
      post (⟨.transactWriteItems (loginItems params), .error cause⟩ ::
        history) (.error err))
    (hok : post (⟨.transactWriteItems (loginItems params), .ok ()⟩ ::
      history) (.ok ())) :
    Sat guard post (verifyOTPAndCreateSession params).run history := by
  unfold verifyOTPAndCreateSession
  rw [sat_run_bind, sat_request]
  refine ⟨hguard, ?_⟩
  rintro (cause | done)
  · exact herror cause _
  · exact hok

end Transactor

section Credentials

theorem sat_generateOTP {post : History → Except GoError String → Prop}
    (hguard : guard history (.randInt otpMax))
    (herror : ∀ cause err,
      post (⟨.randInt otpMax, .error cause⟩ :: history) (.error err))
    (hok : ∀ number,
      post (⟨.randInt otpMax, .ok number⟩ :: history)
        (.ok (formatOTP number))) :
    Sat guard post generateOTP.run history := by
  unfold generateOTP
  rw [sat_run_bind, sat_request]
  refine ⟨hguard, ?_⟩
  rintro (cause | number)
  · exact herror cause _
  · exact hok number

theorem sat_generateRefreshToken
    {post : History → Except GoError String → Prop}
    (hguard : guard history .randToken)
    (herror : ∀ cause err,
      post (⟨.randToken, .error cause⟩ :: history) (.error err))
    (hok : ∀ token,
      post (⟨.randToken, .ok token⟩ :: history) (.ok token)) :
    Sat guard post generateRefreshToken.run history := by
  unfold generateRefreshToken
  rw [sat_run_bind, sat_request]
  refine ⟨hguard, ?_⟩
  rintro (cause | token)
  · exact herror cause _
  · exact hok token

/-- A request of a mint. -/
def isMint : Op → Bool
  | .signingKey => true
  | .clockNow => true
  | .uuidNewString => true
  | .signedString _ _ _ => true
  | _ => false

/-- A mint that failed: its last request did. -/
def MintFailed (added : History) : Prop :=
  (∃ cause rest, added = ⟨.signingKey, .error cause⟩ :: rest) ∨
    ∃ key keyID claims cause rest,
      added = ⟨.signedString key keyID claims, .error cause⟩ :: rest

/-- The claims of a token minted at `now`. -/
def accessClaims (cfg : AuthServiceConfig) (userID sessionID jti : String)
    (now : Time) : Claims where
  subject := userID
  issuer := cfg.issuer
  audience := [cfg.audience]
  issuedAt := some (unix now)
  expiresAt := some (unix (now + accessTokenLifetime))
  notBefore := none
  id := jti
  sessionID := sessionID
  scope := "messaging"

/-- A mint that began after `base` is about to sign `claims`, under an
identifier it has drawn and with a lifetime from a time it has read. -/
def Signs (cfg : AuthServiceConfig) (userID sessionID : String)
    (base older : History) (claims : Claims) : Prop :=
  ∃ privateKey keyID now,
    claims = accessClaims cfg userID sessionID claims.id now ∧
    older = ⟨.uuidNewString, claims.id⟩ :: ⟨.clockNow, now⟩ ::
      ⟨.signingKey, .ok (privateKey, keyID)⟩ :: base

theorem sat_mintAccessToken {post : History → Except GoError MintResult → Prop}
    {cfg : AuthServiceConfig} {userID sessionID : String}
    (hkey : ∀ reached, guard reached .signingKey)
    (hclock : ∀ reached, guard reached .clockNow)
    (hjti : ∀ reached, guard reached .uuidNewString)
    (hsign : ∀ reached privateKey keyID claims,
      Signs cfg userID sessionID history reached claims →
        guard reached (.signedString privateKey keyID claims))
    (herror : ∀ added err, (∀ entry ∈ added, isMint entry.1 = true) →
      MintFailed added → post (added ++ history) (.error err))
    (hok : ∀ added minted, (∀ entry ∈ added, isMint entry.1 = true) →
      post (added ++ history) (.ok minted)) :
    Sat guard post (mintAccessToken cfg userID sessionID).run history := by
  unfold mintAccessToken mintAccessTokenFor
  rw [sat_run_bind, sat_request]
  refine ⟨hkey _, ?_⟩
  rintro (cause | ⟨key, keyID⟩)
  · exact herror [_] _ (by simp [isMint]) (.inl ⟨cause, [], rfl⟩)
  · change Sat guard post (_ >>= _ : Flow MintResult).run _
    rw [sat_run_bind, sat_request]
    refine ⟨hclock _, fun now => ?_⟩
    change Sat guard post (_ >>= _ : Flow MintResult).run _
    rw [sat_run_bind, sat_request]
    refine ⟨hjti _, fun jti => ?_⟩
    change Sat guard post (_ >>= _ : Flow MintResult).run _
    rw [sat_run_bind, sat_request]
    refine ⟨hsign _ _ _ _ ⟨key, keyID, now, rfl, rfl⟩, ?_⟩
    rintro (cause | token)
    · exact herror [_, _, _, _] _ (by simp [isMint])
        (.inr ⟨_, _, _, cause, _, rfl⟩)
    · exact hok [_, _, _, _] _ (by simp [isMint])

end Credentials

end MessagingPlatform.StoreRules
