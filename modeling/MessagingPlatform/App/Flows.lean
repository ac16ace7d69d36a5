import MessagingPlatform.Adapter.Stores

/-!
# The four authentication flows

`RequestOTP`, `VerifyOTP`, `RefreshTokens` and `Logout` of
`internal/chatmgmt/app`, as programs over the store adapters.  Logging,
metrics and tracing have no part in the outcome and are left out.
-/

namespace MessagingPlatform.Flows

open Program
open Instants
open Errors
open Records
open Identifiers
open Primitives
open Tables
open Operations
open Stores

variable (cfg : AuthServiceConfig)

/-- `fmt.Errorf(text, err)` with a single `%w`. -/
def wrapped (text : String) (err : GoError) : GoError := .errorf text [] [err]

/-- The error of `time.Parse` on a text that is not a timestamp. -/
def parseFailure : GoError := .plain "parsing time"

/-- `fmt.Errorf(text, errors.Join(err, domain.ErrUnavailable))`. -/
def unavailable (text : String) (err : GoError) : GoError :=
  .errorf text [] [.join [err, .sentinel .errUnavailable]]

section RequestOTP

def otpRetryAfterSeconds : ℕ := 60

/-- The answer to a request while an active code exists: the expiry of that
code. -/
def existingOTP (phoneHash : String) : Flow RequestOTPResult := do
  let existing ← wrapError (wrapped "get existing OTP: %w") (getOTP phoneHash)
  match parse existing.expiresAt with
  | none => throw (wrapped "parse existing OTP expiry: %w" parseFailure)
  | some parsedExpiry => return ⟨parsedExpiry, otpRetryAfterSeconds⟩

def checkRequestRateLimits (phoneHash clientIP : String) : Flow Unit := do
  let allowed ← wrapError (unavailable "check phone rate limit: %w")
    (checkAndIncrement (.otpReqPhone phoneHash) otpRequestRateLimitPerPhone
      (wholeSeconds otpRateLimitWindow))
  if !allowed then throw (.sentinel .errPhoneRateLimited)
  else
    match ← attempt (checkAndIncrement (.otpReqIP clientIP)
        otpRequestRateLimitPerIP (wholeSeconds otpRateLimitWindow)) with
    | .error _ => return ()
    | .ok ipAllowed =>
        if !ipAllowed then throw (.sentinel .errIPRateLimited) else return ()

/-- The record of a fresh code. -/
def newOTPRecord (otp phoneHash : String) (now : Time) : OTPRecord where
  phoneHash := phoneHash
  otpMAC := computeOTPMAC cfg otp phoneHash
    (format (now + otpValidityDuration)).render
  otpCiphertext := ""
  createdAt := format now
  expiresAt := format (now + otpValidityDuration)
  status := .pending
  attemptCount := 0
  ttl := unix (now + otpValidityDuration)

def requestOTP (phone clientIP : String) : Flow RequestOTPResult := do
  match newPhoneNumber phone with
  | .error err => throw err
  | .ok () =>
      let phoneHash := hashPhone cfg phone
      checkRequestRateLimits phoneHash clientIP
      let otp ← wrapError (wrapped "generate OTP: %w") generateOTP
      let now ← request .clockNow
      match ← attempt (createOTP (newOTPRecord cfg otp phoneHash now)) with
      | .error err =>
          if errorsIs .errAlreadyExists err then existingOTP phoneHash
          else throw (wrapped "create OTP: %w" err)
      | .ok () =>
          let _ ← request (.sendOTP phone otp)
          return ⟨now + otpValidityDuration, otpRetryAfterSeconds⟩

end RequestOTP

section VerifyOTP

def checkVerifyRateLimits (phoneHash : String) : Flow Unit := do
  let allowed ← wrapError (unavailable "check verify rate limit: %w")
    (checkAndIncrement (.otpVerifyPhone phoneHash) maxOTPVerifyAttempts
      (wholeSeconds otpRateLimitWindow))
  if !allowed then throw (.sentinel .errRateLimited)
  else do
    let locked ← wrapError (unavailable "check lockout: %w")
      (checkLockout (.otpLockoutPhone phoneHash))
    if locked then throw (.sentinel .errRateLimited) else return ()

/-- `GetOTP` as the verification reads it: a missing record is an invalid
code. -/
def readOTPRecord (phoneHash : String) : Flow OTPRecord := do
  match ← attempt (getOTP phoneHash) with
  | .error err =>
      if errorsIs .errNotFound err then throw (.sentinel .errInvalidOTP)
      else throw (wrapped "get OTP: %w" err)
  | .ok record => return record

def validateOTPRecord (phoneHash otpCandidate : String) : Flow OTPRecord := do
  let record ← readOTPRecord phoneHash
  if record.status = .verified then
    throw (.sentinel .errInvalidOTP)
  else if record.attemptCount ≥ maxOTPVerifyAttempts then do
    let _ ← attempt (setLockout (.otpLockoutPhone phoneHash)
      (wholeSeconds otpLockoutDuration))
    throw (.sentinel .errRateLimited)
  else
    match parse record.expiresAt with
    | none => throw (wrapped "parse OTP expiry: %w" parseFailure)
    | some expiresAt => do
        let now ← request .clockNow
        if now > expiresAt then
          throw (.sentinel .errInvalidOTP)
        else do
          let matched ← request (.verifyOTPMAC otpCandidate phoneHash
            record.expiresAt record.otpMAC)
          if matched then return record
          else do
            let _ ← attempt (incrementAttempts phoneHash)
            throw (.sentinel .errInvalidOTP)

/-- Delete a session and revoke its id. -/
def evictSession (deleteText revokeText : String) (session : SessionRecord) :
    Flow Unit := do
  wrapError (wrapped deleteText) (deleteSession session.sessionID)
  wrapError (wrapped revokeText) (revoke session.sessionID)

def evictSessions (deleteText revokeText : String) :
    List SessionRecord → Flow Unit
  | [] => pure ()
  | session :: rest => do
      evictSession deleteText revokeText session
      evictSessions deleteText revokeText rest

/-- The sessions bound to the device that logs in. -/
def conflictingSessions (sessions : List SessionRecord) (deviceID : String) :
    List SessionRecord :=
  sessions.filter fun session => session.deviceID = deviceID

def evictConflictingSessions (sessions : List SessionRecord)
    (deviceID : String) : Flow Unit :=
  evictSessions "delete replaced session: %w" "revoke replaced session: %w"
    (conflictingSessions sessions deviceID)

/-- The sessions that the limit evicts: the oldest of those on other devices,
as many as leave room for one more. -/
def excessSessions (sessions : List SessionRecord) (deviceID : String) :
    List SessionRecord :=
  let activeSessions :=
    sessions.filter fun session => session.deviceID ≠ deviceID
  if activeSessions.length < maxSessionsPerUser then []
  else
    (cfg.sortSlice (fun left right => left.createdAt.before right.createdAt)
      activeSessions).take (activeSessions.length - maxSessionsPerUser + 1)

def enforceSessionLimit (sessions : List SessionRecord) (deviceID : String) :
    Flow Unit :=
  evictSessions "delete evicted session: %w" "revoke evicted session: %w"
    (excessSessions cfg sessions deviceID)

def createLoginSession (phoneHash : String) (record : OTPRecord)
    (user : UserRecord) (deviceID : String) : Flow VerifyOTPResult := do
  let sessionID ← request .uuidNewString
  let now ← request .clockNow
  let refreshToken ← wrapError (wrapped "generate refresh token: %w")
    generateRefreshToken
  let sessionExpiry := now + refreshTokenLifetime
  wrapError (wrapped "create login session: %w")
    (verifyOTPAndCreateSession
      { phoneHash := phoneHash
        otpExpiresAt := record.expiresAt
        otpMAC := record.otpMAC
        sessionID := sessionID
        userID := user.userID
        deviceID := deviceID
        refreshTokenHash := hashRefreshToken cfg refreshToken
        createdAt := format now
        sessionExpiresAt := format sessionExpiry
        sessionTTL := unix sessionExpiry })
  let minted ← wrapError (wrapped "mint access token: %w")
    (mintAccessToken cfg user.userID sessionID)
  return { user := user
           sessionID := sessionID
           accessToken := minted.token
           refreshToken := refreshToken
           isNewUser := false
           accessTokenExpiry := minted.expiresAt }

def verifyOTPExistingUser (phoneHash : String) (record : OTPRecord)
    (user : UserRecord) (deviceID : String) : Flow VerifyOTPResult := do
  let sessions ← wrapError (wrapped "list sessions: %w")
    (listByUser user.userID)
  evictConflictingSessions sessions deviceID
  enforceSessionLimit cfg sessions deviceID
  createLoginSession cfg phoneHash record user deviceID

def verifyOTPNewUser (phone phoneHash : String) (record : OTPRecord)
    (deviceID : String) : Flow VerifyOTPResult := do
  let userID ← request .uuidNewString
  let sessionID ← request .uuidNewString
  let now ← request .clockNow
  let refreshToken ← wrapError (wrapped "generate refresh token: %w")
    generateRefreshToken
  let sessionExpiry := now + refreshTokenLifetime
  match ← attempt (verifyOTPAndCreateUser
      { phoneHash := phoneHash
        otpExpiresAt := record.expiresAt
        otpMAC := record.otpMAC
        userID := userID
        phoneNumber := phone
        now := format now
        sessionID := sessionID
        deviceID := deviceID
        refreshTokenHash := hashRefreshToken cfg refreshToken
        sessionExpiresAt := format sessionExpiry
        sessionTTL := unix sessionExpiry }) with
  | .error err =>
      if errorsIs .errAlreadyExists err then do
        let user ← wrapError (wrapped "find user after race: %w")
          (findByPhone phone)
        verifyOTPExistingUser cfg phoneHash record user deviceID
      else throw (wrapped "register user: %w" err)
  | .ok () =>
      let minted ← wrapError (wrapped "mint access token: %w")
        (mintAccessToken cfg userID sessionID)
      return { user := ⟨userID, phone, "", format now, format now⟩
               sessionID := sessionID
               accessToken := minted.token
               refreshToken := refreshToken
               isNewUser := true
               accessTokenExpiry := minted.expiresAt }

def verifyOTP (phone otpCandidate deviceID : String) :
    Flow VerifyOTPResult := do
  match newPhoneNumber phone with
  | .error err => throw err
  | .ok () =>
      if deviceID = "" then
        throw (.errorf "device ID is required: %w" []
          [.sentinel .errInvalidInput])
      else do
        let phoneHash := hashPhone cfg phone
        checkVerifyRateLimits phoneHash
        let record ← validateOTPRecord phoneHash otpCandidate
        match ← attempt (findByPhone phone) with
        | .error err =>
            if errorsIs .errNotFound err then
              verifyOTPNewUser cfg phone phoneHash record deviceID
            else throw (wrapped "find user by phone: %w" err)
        | .ok user => verifyOTPExistingUser cfg phoneHash record user deviceID

end VerifyOTP

section RefreshTokens

def rotateRefreshToken (userID sessionID : String) (session : SessionRecord) :
    Flow RefreshResult := do
  let newRefresh ← wrapError (wrapped "generate refresh token: %w")
    generateRefreshToken
  let now ← request .clockNow
  let newExpiry := now + refreshTokenLifetime
  wrapError (wrapped "update session: %w")
    (updateSession sessionID
      { refreshTokenHash := hashRefreshToken cfg newRefresh
        prevTokenHash := session.refreshTokenHash
        expiresAt := format newExpiry
        tokenGeneration := session.tokenGeneration + 1
        ttl := unix newExpiry })
  let minted ← wrapError (wrapped "mint access token: %w")
    (mintAccessToken cfg userID sessionID)
  return ⟨minted.token, newRefresh, minted.expiresAt⟩

/-- Reuse detected: the session is deleted and the presented access token
revoked; failures of either are logged only. -/
def revokeReusedSession (claims : Claims) : Flow RefreshResult := do
  let _ ← attempt (deleteSession claims.sessionID)
  let _ ← attempt (revoke claims.id)
  throw (.sentinel .errRefreshTokenReuse)

/-- `GetByID` as the refresh reads it: a missing session is a revoked one. -/
def lookupSession (sessionID : String) : Flow SessionRecord := do
  match ← attempt (getSessionByID sessionID) with
  | .error err =>
      if errorsIs .errNotFound err then throw (.sentinel .errSessionRevoked)
      else throw (wrapped "get session: %w" err)
  | .ok session => return session

def refreshTokens (accessToken refreshToken deviceID : String) :
    Flow RefreshResult := do
  let validatedAt ← request .clockNow
  match validateIgnoreExpiry cfg validatedAt accessToken with
  | .error err =>
      throw (.errorf "%w: %w" [] [.sentinel .errUnauthorized, err])
  | .ok claims => do
      let session ← lookupSession claims.sessionID
      if session.deviceID ≠ deviceID then
        throw (.sentinel .errDeviceMismatch)
      else
        match parse session.expiresAt with
        | none => throw (wrapped "parse session expiry: %w" parseFailure)
        | some sessionExpiry => do
            let now ← request .clockNow
            if now > sessionExpiry then
              throw (.sentinel .errSessionExpired)
            else if validateRefreshHash cfg refreshToken
                session.refreshTokenHash then
              rotateRefreshToken cfg claims.subject claims.sessionID session
            else if session.prevTokenHash ≠ "" ∧
                validateRefreshHash cfg refreshToken session.prevTokenHash then
              revokeReusedSession claims
            else throw (.sentinel .errInvalidRefreshToken)

end RefreshTokens

section Logout

def logout (accessToken : String) : Flow Unit := do
  let now ← request .clockNow
  match validateAccessToken cfg now accessToken with
  | .error err =>
      throw (.errorf "%w: %w" [] [.sentinel .errUnauthorized, err])
  | .ok claims => do
      let _ ← attempt (deleteSession claims.sessionID)
      wrapError (wrapped "revoke JTI: %w") (revoke claims.id)

end Logout

end MessagingPlatform.Flows
