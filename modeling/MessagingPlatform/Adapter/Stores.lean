import MessagingPlatform.Store.Operations

/-!
# Store adapters

The adapters of `internal/chatmgmt/adapter`, which turn the interfaces of the
application layer into DynamoDB and Redis requests and classify their errors.
A flow is a program that may fail with an error.
-/

namespace MessagingPlatform.Stores

open Program
open Instants
open Errors
open Records
open Identifiers
open Primitives
open Tables
open Operations

/-- A program that returns a value or an error. -/
abbrev Flow (A : Type) := ExceptT GoError (Prog Op Op.Res) A

variable {A : Type}

/-- Make one request. -/
def request (op : Op) : Flow op.Res := ExceptT.lift (Prog.perform op)

/-- `if err != nil { return ..., wrap(err) }`. -/
def wrapError (wrap : GoError → GoError) (flow : Flow A) : Flow A :=
  ExceptT.mk (flow.run >>= fun outcome =>
    match outcome with
    | .ok value => pure (.ok value)
    | .error err => pure (.error (wrap err)))

/-- Run a flow and keep its error as a value. -/
def attempt (flow : Flow A) : Flow (Except GoError A) :=
  ExceptT.lift flow.run

section RateLimiter

def checkAndIncrement (key : RedisKey) (limit windowSeconds : ℕ) :
    Flow Bool := do
  match ← request (.redisEval key windowSeconds) with
  | .error err => throw (.errorf "rate limit check %q: %w" [key.render] [err])
  | .ok count => return decide (count ≤ limit)

def checkLockout (key : RedisKey) : Flow Bool := do
  match ← request (.redisExists key) with
  | .error err => throw (.errorf "lockout check %q: %w" [key.render] [err])
  | .ok found => return found

def setLockout (key : RedisKey) (ttlSeconds : ℕ) : Flow Unit := do
  match ← request (.redisSet key ttlSeconds) with
  | .error err => throw (.errorf "set lockout %q: %w" [key.render] [err])
  | .ok () => return ()

end RateLimiter

section RevocationStore

/-- The fixed TTL of a revocation key, `revokedJTITTL`. -/
def revokedJTITTL : ℕ := 3600

def revoke (jti : String) : Flow Unit := do
  match ← request (.redisSet (.revokedJTI jti) revokedJTITTL) with
  | .error err => throw (.errorf "revoke JTI %q: %w" [jti] [err])
  | .ok () => return ()

/-- `IsRevoked`, which answers `true` beside its error if Redis fails. -/
def isRevoked (jti : String) : Prog Op Op.Res (Bool × Option GoError) := do
  let response : Except GoError Bool ←
    Prog.perform (.redisExists (.revokedJTI jti) : Op)
  match response with
  | .error err =>
      return (true, some (.errorf "check revocation %q: %w" [jti] [err]))
  | .ok found => return (found, none)

end RevocationStore

section OTPStore

def createOTP (record : OTPRecord) : Flow Unit := do
  let now ← request .clockNow
  match ← request
      (.otpPutItem record.phoneHash (toOTPItem record) (format now)) with
  | .error .conditionalCheckFailed =>
      throw (.errorf "otp store: create otp: %w" []
        [.sentinel .errAlreadyExists])
  | .error err => throw (.errorf "otp store: create otp: %w" [] [err.toGoError])
  | .ok () => return ()

def getOTP (phoneHash : String) : Flow OTPRecord := do
  match ← request (.otpGetItem phoneHash) with
  | .error err => throw (.errorf "otp store: get otp: %w" [] [err.toGoError])
  | .ok none =>
      throw (.errorf "otp store: get otp: %w" [] [.sentinel .errNotFound])
  | .ok (some item) => return fromOTPItem phoneHash item

def incrementAttempts (phoneHash : String) : Flow Unit := do
  match ← request (.otpUpdateItem phoneHash) with
  | .error err =>
      throw (.errorf "otp store: increment attempts: %w" [] [err.toGoError])
  | .ok () => return ()

end OTPStore

section UserStore

def getUserByID (userID : String) : Flow UserRecord := do
  match ← request (.usersGetItem userID) with
  | .error err => throw (.errorf "user store: get by id: %w" [] [err.toGoError])
  | .ok none =>
      throw (.errorf "user store: get by id: %w" [] [.sentinel .errNotFound])
  | .ok (some item) => return fromUserItem userID item

/-- The index query, and then a consistent read of the first key it lists. -/
def findByPhone (phoneNumber : String) : Flow UserRecord := do
  match ← request (.usersQuery phoneNumber) with
  | .error err =>
      throw (.errorf "user store: find by phone query: %w" [] [err.toGoError])
  | .ok [] =>
      throw (.errorf "user store: find by phone: %w" []
        [.sentinel .errNotFound])
  | .ok (userID :: _) =>
      match ← request .ctxErr with
      | .error err =>
          throw (.errorf "user store: find by phone: %w" [] [err])
      | .ok () => getUserByID userID

end UserStore

section SessionStore

def getSessionByID (sessionID : String) : Flow SessionRecord := do
  match ← request (.sessionsGetItem sessionID) with
  | .error err =>
      throw (.errorf "session store: get by id: %w" [] [err.toGoError])
  | .ok none =>
      throw (.errorf "session store: get by id: %w" []
        [.sentinel .errNotFound])
  | .ok (some item) => return fromSessionItem sessionID item

def listByUser (userID : String) : Flow (List SessionRecord) := do
  let now ← request .clockNow
  match ← request (.sessionsQuery userID (format now)) with
  | .error err =>
      throw (.errorf "session store: list by user: %w" [] [err.toGoError])
  | .ok rows => return rows.map fun row => fromSessionItem row.1 row.2

def updateSession (sessionID : String) (update : SessionUpdate) :
    Flow Unit := do
  match ← request (.sessionsUpdateItem sessionID update) with
  | .error err => throw (.errorf "session store: update: %w" [] [err.toGoError])
  | .ok () => return ()

def deleteSession (sessionID : String) : Flow Unit := do
  match ← request (.sessionsDeleteItem sessionID) with
  | .error err => throw (.errorf "session store: delete: %w" [] [err.toGoError])
  | .ok () => return ()

end SessionStore

section Transactor

def buildOTPVerifyUpdate (phoneHash : String) (expiresAt : TimeText)
    (otpMAC : String) : TransactWriteItem :=
  .otpVerifyUpdate phoneHash expiresAt otpMAC

/-- The attributes of a user. -/
def userAttributes (phoneNumber : String) (now : TimeText) : UserItem where
  phoneNumber := phoneNumber
  displayName := some ""
  createdAt := some now
  updatedAt := some now
  ownerID := none

/-- The attributes of a phone reservation. -/
def sentinelAttributes (phoneNumber userID : String) : UserItem where
  phoneNumber := phoneNumber
  displayName := none
  createdAt := none
  updatedAt := none
  ownerID := some userID

/-- The attributes of a new session. -/
def sessionAttributes (userID deviceID refreshTokenHash : String)
    (createdAt expiresAt : TimeText) (ttl : ℤ) : SessionItem where
  userID := some userID
  deviceID := some deviceID
  createdAt := some createdAt
  refreshTokenHash := refreshTokenHash
  tokenGeneration := 1
  prevTokenHash := ""
  expiresAt := expiresAt
  ttl := ttl

def buildUserPut (userID phoneNumber : String) (now : TimeText) :
    TransactWriteItem :=
  .userPut userID (userAttributes phoneNumber now)

def buildPhoneSentinelPut (phoneNumber userID : String) : TransactWriteItem :=
  .userPut (phoneSentinelKey phoneNumber)
    (sentinelAttributes phoneNumber userID)

def buildSessionPut (sessionID userID deviceID refreshTokenHash : String)
    (createdAt expiresAt : TimeText) (ttl : ℤ) : TransactWriteItem :=
  .sessionPut sessionID
    (sessionAttributes userID deviceID refreshTokenHash createdAt expiresAt
      ttl)

/-- The four writes of a registration. -/
def registrationItems (params : RegistrationParams) :
    List TransactWriteItem :=
  [buildOTPVerifyUpdate params.phoneHash params.otpExpiresAt params.otpMAC,
    buildUserPut params.userID params.phoneNumber params.now,
    buildPhoneSentinelPut params.phoneNumber params.userID,
    buildSessionPut params.sessionID params.userID params.deviceID
      params.refreshTokenHash params.now params.sessionExpiresAt
      params.sessionTTL]

/-- The two writes of a login. -/
def loginItems (params : LoginParams) : List TransactWriteItem :=
  [buildOTPVerifyUpdate params.phoneHash params.otpExpiresAt params.otpMAC,
    buildSessionPut params.sessionID params.userID params.deviceID
      params.refreshTokenHash params.createdAt params.sessionExpiresAt
      params.sessionTTL]

/-- The first item of a reason vector that is a failed condition. -/
def firstConditionFailure (reasons : List String) : Option ℕ :=
  reasons.findIdx? (· == conditionalCheckFailedReason)

def classifyTxError (operation : String) (itemNames : List String) :
    DynamoError → GoError
  | .transactionCanceled reasons =>
      match firstConditionFailure reasons with
      | some index =>
          .errorf "transactor: %s: item %d (%s) condition failed: %w"
            [operation, toString index, itemNames.getD index "unknown"]
            [.sentinel .errAlreadyExists]
      | none =>
          .errorf "transactor: %s: transaction canceled: %w" [operation]
            [(DynamoError.transactionCanceled reasons).toGoError]
  | err => .errorf "transactor: %s: %w" [operation] [err.toGoError]

def verifyOTPAndCreateUser (params : RegistrationParams) : Flow Unit := do
  match ← request (.transactWriteItems (registrationItems params)) with
  | .error err =>
      throw (classifyTxError "verify otp and create user"
        ["otp_update", "user_put", "phone_sentinel", "session_put"] err)
  | .ok () => return ()

def verifyOTPAndCreateSession (params : LoginParams) : Flow Unit := do
  match ← request (.transactWriteItems (loginItems params)) with
  | .error err =>
      throw (classifyTxError "verify otp and create session"
        ["otp_update", "session_put"] err)
  | .ok () => return ()

end Transactor

section Credentials

/-- `auth.GenerateOTP`. -/
def generateOTP : Flow String := do
  match ← request (.randInt otpMax) with
  | .error err => throw (.errorf "generate OTP: %w" [] [err])
  | .ok number => return formatOTP number

/-- `auth.GenerateRefreshToken`. -/
def generateRefreshToken : Flow String := do
  match ← request .randToken with
  | .error err => throw (.errorf "generate refresh token: %w" [] [err])
  | .ok token => return token

/-- The token of a mint and the instant it expires. -/
structure MintResult where
  token : String
  jti : String
  expiresAt : Time
  deriving DecidableEq, Repr

/-- `Minter.MintAccessToken` of a minter with some access TTL. -/
def mintAccessTokenFor (cfg : AuthServiceConfig) (accessTTL : Time)
    (userID sessionID : String) : Flow MintResult := do
  match ← request .signingKey with
  | .error err => throw (.errorf "get signing key: %w" [] [err])
  | .ok (privateKey, keyID) =>
      let now ← request .clockNow
      let jti ← request .uuidNewString
      let expiresAt := now + accessTTL
      let claims : Claims :=
        { subject := userID
          issuer := cfg.issuer
          audience := [cfg.audience]
          issuedAt := some (unix now)
          expiresAt := some (unix expiresAt)
          notBefore := none
          id := jti
          sessionID := sessionID
          scope := "messaging" }
      match ← request (.signedString privateKey keyID claims) with
      | .error err => throw (.errorf "sign access token: %w" [] [err])
      | .ok token => return ⟨token, jti, expiresAt⟩

/-- `Minter.MintAccessToken`, with the access TTL the service is wired with. -/
def mintAccessToken (cfg : AuthServiceConfig) (userID sessionID : String) :
    Flow MintResult :=
  mintAccessTokenFor cfg accessTokenLifetime userID sessionID

end Credentials

end MessagingPlatform.Stores
