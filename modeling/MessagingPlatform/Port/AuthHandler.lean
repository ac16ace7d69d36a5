import MessagingPlatform.Errmap.Mappers
import MessagingPlatform.Port.ClientAddress
import MessagingPlatform.System.Service

/-!
# The gRPC handlers

`AuthHandler` of `internal/chatmgmt/port`: what a call is asked to do is taken
from the message and from the metadata, the outcome of the flow becomes a
message or a status.
-/

namespace MessagingPlatform.AuthHandler

open Program
open Instants
open Errors
open Records
open Primitives
open Operations
open Mappers
open ClientAddress
open Service

section Messages

structure RequestOTPRequest where
  phoneNumber : String
  deriving DecidableEq, Repr

structure VerifyOTPRequest where
  phoneNumber : String
  otp : String
  deviceId : String
  deriving DecidableEq, Repr

structure RefreshTokensRequest where
  refreshToken : String
  deriving DecidableEq, Repr

/-- Milliseconds since the Unix epoch. -/
structure Timestamp where
  millis : ℤ
  deriving DecidableEq, Repr

structure RequestOTPResponse where
  expiresAt : Timestamp
  retryAfterSeconds : Int32
  deriving DecidableEq

structure AuthUser where
  userId : String
  phoneNumber : String
  displayName : String
  phoneVerified : Bool
  createdAt : Timestamp
  deriving DecidableEq, Repr

structure VerifyOTPResponse where
  user : AuthUser
  sessionId : String
  accessToken : String
  refreshToken : String
  isNewUser : Bool
  accessTokenExpiresAt : Timestamp
  deriving DecidableEq, Repr

structure RefreshTokensResponse where
  accessToken : String
  refreshToken : String
  accessTokenExpiresAt : Timestamp
  deriving DecidableEq, Repr

/-- The four calls of the service.  The message of a logout is empty. -/
inductive RPC where
  | requestOTP (req : RequestOTPRequest)
  | verifyOTP (req : VerifyOTPRequest)
  | refreshTokens (req : RefreshTokensRequest)
  | logout
  deriving DecidableEq, Repr

inductive Response where
  | requestOTP (response : RequestOTPResponse)
  | verifyOTP (response : VerifyOTPResponse)
  | refreshTokens (response : RefreshTokensResponse)
  | logout
  deriving DecidableEq

end Messages

section Conversions

/-- The first value of a key, and the empty text without metadata or value. -/
def firstValue (key : String) (ctx : Context) : String :=
  match ctx.metadata with
  | none => ""
  | some metadata => (metadata key).headD ""

/-- `strings.HasPrefix` with the text after it. -/
def afterBearer (text : String) : String :=
  if "Bearer ".toList.isPrefixOf text.toList then
    String.ofList (text.toList.drop 7)
  else text

def extractBearerToken (ctx : Context) : String :=
  afterBearer (firstValue "authorization" ctx)

def extractDeviceID (ctx : Context) : String := firstValue "x-device-id" ctx

def maxInt32 : ℤ := 2147483647

/-- `int32(v)` wraps around, so only the upper end is guarded. -/
def clampInt32 (v : ℤ) : Int32 :=
  if v > maxInt32 then Int32.ofInt maxInt32 else Int32.ofInt v

/-- `t.UnixMilli()`. -/
def unixMilli (instant : Time) : ℤ := instant / 1000000

def timeToProtoTimestamp (t : Time) : Timestamp := ⟨unixMilli t⟩

def timeStringToProtoTimestamp (s : TimeText) : Timestamp :=
  match parse s with
  | none => ⟨0⟩
  | some t => ⟨unixMilli t⟩

end Conversions

section Handlers

variable (cfg : AuthServiceConfig) (quote : String → String)

def toGRPCError (err : GoError) : GRPCStatus := toGRPCStatus quote (some err)

def toRequestOTPResponse (result : RequestOTPResult) : RequestOTPResponse where
  expiresAt := timeToProtoTimestamp result.expiresAt
  retryAfterSeconds := clampInt32 result.retryAfterSeconds

def toVerifyOTPResponse (result : VerifyOTPResult) : VerifyOTPResponse where
  user :=
    { userId := result.user.userID
      phoneNumber := result.user.phoneNumber
      displayName := result.user.displayName
      phoneVerified := true
      createdAt := timeStringToProtoTimestamp result.user.createdAt }
  sessionId := result.sessionID
  accessToken := result.accessToken
  refreshToken := result.refreshToken
  isNewUser := result.isNewUser
  accessTokenExpiresAt := timeToProtoTimestamp result.accessTokenExpiry

def toRefreshTokensResponse (result : RefreshResult) :
    RefreshTokensResponse where
  accessToken := result.accessToken
  refreshToken := result.refreshToken
  accessTokenExpiresAt := timeToProtoTimestamp result.accessTokenExpiry

def requestOTP (ctx : Context) (req : RequestOTPRequest) :
    Prog Op Op.Res (Except GRPCStatus RequestOTPResponse) := do
  let clientIP := extractClientIP ctx
  match ← (Flows.requestOTP cfg req.phoneNumber clientIP).run with
  | .error err => return .error (toGRPCError quote err)
  | .ok result => return .ok (toRequestOTPResponse result)

def verifyOTP (req : VerifyOTPRequest) :
    Prog Op Op.Res (Except GRPCStatus VerifyOTPResponse) := do
  match ← (Flows.verifyOTP cfg req.phoneNumber req.otp req.deviceId).run with
  | .error err => return .error (toGRPCError quote err)
  | .ok result => return .ok (toVerifyOTPResponse result)

def refreshTokens (ctx : Context) (req : RefreshTokensRequest) :
    Prog Op Op.Res (Except GRPCStatus RefreshTokensResponse) := do
  let accessToken := extractBearerToken ctx
  let deviceID := extractDeviceID ctx
  match ← (Flows.refreshTokens cfg accessToken req.refreshToken
      deviceID).run with
  | .error err => return .error (toGRPCError quote err)
  | .ok result => return .ok (toRefreshTokensResponse result)

def logout (ctx : Context) :
    Prog Op Op.Res (Except GRPCStatus Unit) := do
  let accessToken := extractBearerToken ctx
  match ← (Flows.logout cfg accessToken).run with
  | .error err => return .error (toGRPCError quote err)
  | .ok () => return .ok ()

/-- The handler registered for each call. -/
def handle (ctx : Context) :
    RPC → Prog Op Op.Res (Except GRPCStatus Response)
  | .requestOTP req => do
      let answer ← requestOTP cfg quote ctx req
      return answer.map .requestOTP
  | .verifyOTP req => do
      let answer ← verifyOTP cfg quote req
      return answer.map .verifyOTP
  | .refreshTokens req => do
      let answer ← refreshTokens cfg quote ctx req
      return answer.map .refreshTokens
  | .logout => do
      let answer ← logout cfg quote ctx
      return answer.map fun _ => .logout

end Handlers

end MessagingPlatform.AuthHandler
