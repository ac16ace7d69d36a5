import MessagingPlatform.Domain.Instants

/-!
# Records of the authentication service

The data that the flows of `internal/chatmgmt/app` exchange with their stores
and return to their callers.  Timestamps are texts, as in the source.
-/

namespace MessagingPlatform.Records

open Instants

/-- The two values the `status` attribute of an OTP record takes. -/
inductive OTPStatus where
  | pending
  | verified
  deriving DecidableEq, Repr

structure OTPRecord where
  phoneHash : String
  otpMAC : String
  otpCiphertext : String
  createdAt : TimeText
  expiresAt : TimeText
  status : OTPStatus
  attemptCount : ℕ
  ttl : ℤ
  deriving DecidableEq, Repr

structure UserRecord where
  userID : String
  phoneNumber : String
  displayName : String
  createdAt : TimeText
  updatedAt : TimeText
  deriving DecidableEq, Repr

structure SessionRecord where
  sessionID : String
  userID : String
  deviceID : String
  refreshTokenHash : String
  prevTokenHash : String
  createdAt : TimeText
  expiresAt : TimeText
  tokenGeneration : Int64
  ttl : ℤ
  deriving DecidableEq, Repr

/-- The attributes that a session rotation replaces. -/
structure SessionUpdate where
  refreshTokenHash : String
  prevTokenHash : String
  expiresAt : TimeText
  tokenGeneration : Int64
  ttl : ℤ
  deriving DecidableEq, Repr

structure RegistrationParams where
  phoneHash : String
  otpExpiresAt : TimeText
  otpMAC : String
  userID : String
  phoneNumber : String
  now : TimeText
  sessionID : String
  deviceID : String
  refreshTokenHash : String
  sessionExpiresAt : TimeText
  sessionTTL : ℤ
  deriving DecidableEq, Repr

structure LoginParams where
  phoneHash : String
  otpExpiresAt : TimeText
  otpMAC : String
  sessionID : String
  userID : String
  deviceID : String
  refreshTokenHash : String
  createdAt : TimeText
  sessionExpiresAt : TimeText
  sessionTTL : ℤ
  deriving DecidableEq, Repr

structure RequestOTPResult where
  expiresAt : Time
  retryAfterSeconds : ℕ
  deriving DecidableEq, Repr

structure VerifyOTPResult where
  user : UserRecord
  sessionID : String
  accessToken : String
  refreshToken : String
  isNewUser : Bool
  accessTokenExpiry : Time
  deriving DecidableEq, Repr

structure RefreshResult where
  accessToken : String
  refreshToken : String
  accessTokenExpiry : Time
  deriving DecidableEq, Repr

end MessagingPlatform.Records
