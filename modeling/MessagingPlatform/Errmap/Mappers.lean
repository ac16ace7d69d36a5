import MessagingPlatform.Domain.Errors

/-!
# Wire mappings of errors

`internal/errmap`: the first sentinel of a table that `errors.Is` finds in the
error decides the code, and the message is the text of the whole error.  An
error with none of the sentinels is answered with a fixed text.
-/

namespace MessagingPlatform.Mappers

open Errors

section Texts

def sentinelText : Sentinel → String
  | .errEmptyID => "ID cannot be empty"
  | .errInvalidID => "invalid ID format"
  | .errNotFound => "resource not found"
  | .errAlreadyExists => "resource already exists"
  | .errUnauthorized => "authentication required"
  | .errForbidden => "permission denied"
  | .errNotMember => "user is not a member of this chat"
  | .errInvalidInput => "invalid input"
  | .errMessageTooLarge => "message exceeds size limit"
  | .errInvalidContentType => "unsupported content type"
  | .errRateLimited => "rate limit exceeded"
  | .errUnavailable => "service temporarily unavailable"
  | .errSlowConsumer => "client not consuming messages fast enough"
  | .errDuplicateMessage => "duplicate client_message_id"
  | .errInvalidOTP => "invalid OTP"
  | .errOTPExpired => "OTP has expired"
  | .errDeviceMismatch => "device ID does not match session"
  | .errInvalidRefreshToken => "invalid refresh token"
  | .errRefreshTokenReuse => "refresh token reuse detected"
  | .errSessionExpired => "session has expired"
  | .errSessionRevoked => "session has been revoked"
  | .errMaxSessionsExceeded => "maximum concurrent sessions exceeded"
  | .errPhoneRateLimited => "phone number rate limit exceeded"
  | .errIPRateLimited => "IP address rate limit exceeded"
  | .errInvalidPhoneNumber => "invalid phone number format"
  | .errConfigRequired => "required configuration key missing"

variable (quote : String → String)

/-- `fmt.Sprintf` for the verbs that the formats use: `%w` takes the text of a
wrapped error, `%q` a quoted argument, every other verb an argument. -/
def sprintf : List Char → List String → List String → List Char
  | '%' :: 'w' :: rest, args, cause :: causes =>
      cause.toList ++ sprintf rest args causes
  | '%' :: 'q' :: rest, arg :: args, causes =>
      (quote arg).toList ++ sprintf rest args causes
  | '%' :: _ :: rest, arg :: args, causes =>
      arg.toList ++ sprintf rest args causes
  | char :: rest, args, causes => char :: sprintf rest args causes
  | [], _, _ => []

mutual

/-- `err.Error()`; `quote` is `strconv.Quote`. -/
def errorText : GoError → String
  | .sentinel sentinel => sentinelText sentinel
  | .plain text => text
  | .errorf format args causes =>
      String.ofList (sprintf quote format.toList args (errorTexts causes))
  | .join causes => "\n".intercalate (errorTexts causes)

def errorTexts : List GoError → List String
  | [] => []
  | cause :: causes => errorText cause :: errorTexts causes

end

end Texts

section GRPC

/-- The gRPC codes of the table. -/
inductive Code where
  | ok
  | notFound
  | alreadyExists
  | unauthenticated
  | permissionDenied
  | invalidArgument
  | resourceExhausted
  | unavailable
  | internal
  deriving DecidableEq, Repr

structure GRPCStatus where
  code : Code
  message : String
  deriving DecidableEq, Repr

def grpcMappings : List (Sentinel × Code) :=
  [(.errNotFound, .notFound),
    (.errAlreadyExists, .alreadyExists),
    (.errDuplicateMessage, .alreadyExists),
    (.errUnauthorized, .unauthenticated),
    (.errInvalidOTP, .unauthenticated),
    (.errOTPExpired, .unauthenticated),
    (.errDeviceMismatch, .unauthenticated),
    (.errInvalidRefreshToken, .unauthenticated),
    (.errRefreshTokenReuse, .unauthenticated),
    (.errSessionExpired, .unauthenticated),
    (.errSessionRevoked, .unauthenticated),
    (.errForbidden, .permissionDenied),
    (.errNotMember, .permissionDenied),
    (.errInvalidInput, .invalidArgument),
    (.errMessageTooLarge, .invalidArgument),
    (.errInvalidContentType, .invalidArgument),
    (.errEmptyID, .invalidArgument),
    (.errInvalidID, .invalidArgument),
    (.errInvalidPhoneNumber, .invalidArgument),
    (.errRateLimited, .resourceExhausted),
    (.errPhoneRateLimited, .resourceExhausted),
    (.errIPRateLimited, .resourceExhausted),
    (.errMaxSessionsExceeded, .resourceExhausted),
    (.errSlowConsumer, .resourceExhausted),
    (.errUnavailable, .unavailable)]

end GRPC

section HTTP

structure HTTPError where
  statusCode : ℕ
  code : String
  message : String
  deriving DecidableEq, Repr

def httpMappings : List (Sentinel × ℕ × String) :=
  [(.errNotFound, 404, "NOT_FOUND"),
    (.errAlreadyExists, 409, "ALREADY_EXISTS"),
    (.errDuplicateMessage, 200, "DUPLICATE"),
    (.errUnauthorized, 401, "UNAUTHENTICATED"),
    (.errInvalidOTP, 401, "INVALID_OTP"),
    (.errOTPExpired, 401, "OTP_EXPIRED"),
    (.errDeviceMismatch, 401, "DEVICE_MISMATCH"),
    (.errInvalidRefreshToken, 401, "INVALID_REFRESH_TOKEN"),
    (.errRefreshTokenReuse, 401, "REFRESH_TOKEN_REUSE"),
    (.errSessionExpired, 401, "SESSION_EXPIRED"),
    (.errSessionRevoked, 401, "SESSION_REVOKED"),
    (.errForbidden, 403, "PERMISSION_DENIED"),
    (.errNotMember, 403, "NOT_MEMBER"),
    (.errInvalidInput, 400, "INVALID_ARGUMENT"),
    (.errMessageTooLarge, 400, "INVALID_ARGUMENT"),
    (.errInvalidContentType, 400, "INVALID_ARGUMENT"),
    (.errEmptyID, 400, "INVALID_ARGUMENT"),
    (.errInvalidID, 400, "INVALID_ARGUMENT"),
    (.errInvalidPhoneNumber, 400, "INVALID_ARGUMENT"),
    (.errRateLimited, 429, "RATE_LIMITED"),
    (.errPhoneRateLimited, 429, "PHONE_RATE_LIMITED"),
    (.errIPRateLimited, 429, "IP_RATE_LIMITED"),
    (.errMaxSessionsExceeded, 429, "MAX_SESSIONS_EXCEEDED"),
    (.errSlowConsumer, 429, "RESOURCE_EXHAUSTED"),
    (.errUnavailable, 503, "UNAVAILABLE")]

end HTTP

section WebSocket

def closeNormalClosure : ℕ := 1000
def closeInternalError : ℕ := 1011
def closeTryAgainLater : ℕ := 1013
def closeInvalidMessage : ℕ := 4000
def closeUnauthorized : ℕ := 4001
def closeForbidden : ℕ := 4003
def closeNotFound : ℕ := 4004
def closeAlreadyExists : ℕ := 4009
def closeMessageTooLarge : ℕ := 4013
def closeRateLimited : ℕ := 4029

structure WebSocketClose where
  code : ℕ
  reason : String
  deriving DecidableEq, Repr

def wsMappings : List (Sentinel × ℕ × String) :=
  [(.errUnauthorized, closeUnauthorized, "unauthorized"),
    (.errInvalidOTP, closeUnauthorized, "invalid_otp"),
    (.errOTPExpired, closeUnauthorized, "otp_expired"),
    (.errDeviceMismatch, closeUnauthorized, "device_mismatch"),
    (.errInvalidRefreshToken, closeUnauthorized, "invalid_refresh_token"),
    (.errRefreshTokenReuse, closeUnauthorized, "refresh_token_reuse"),
    (.errSessionExpired, closeUnauthorized, "session_expired"),
    (.errSessionRevoked, closeUnauthorized, "session_revoked"),
    (.errForbidden, closeForbidden, "forbidden"),
    (.errNotMember, closeForbidden, "not_a_member"),
    (.errNotFound, closeNotFound, "not_found"),
    (.errAlreadyExists, closeAlreadyExists, "already_exists"),
    (.errDuplicateMessage, closeAlreadyExists, "duplicate_message"),
    (.errInvalidInput, closeInvalidMessage, "invalid_message"),
    (.errEmptyID, closeInvalidMessage, "invalid_message"),
    (.errInvalidID, closeInvalidMessage, "invalid_message"),
    (.errInvalidPhoneNumber, closeInvalidMessage, "invalid_phone_number"),
    (.errMessageTooLarge, closeMessageTooLarge, "message_too_large"),
    (.errInvalidContentType, closeInvalidMessage, "invalid_content_type"),
    (.errRateLimited, closeRateLimited, "rate_limited"),
    (.errPhoneRateLimited, closeRateLimited, "phone_rate_limited"),
    (.errIPRateLimited, closeRateLimited, "ip_rate_limited"),
    (.errMaxSessionsExceeded, closeRateLimited, "max_sessions_exceeded"),
    (.errSlowConsumer, closeRateLimited, "slow_consumer"),
    (.errUnavailable, closeTryAgainLater, "service_unavailable")]

end WebSocket

/-- The first row of a table whose sentinel the error has. -/
def firstMapping {Row : Type} (mappings : List (Sentinel × Row))
    (err : GoError) : Option Row :=
  (mappings.find? fun mapping => errorsIs mapping.1 err).map Prod.snd

theorem firstMapping_eq_none_iff {Row : Type}
    {mappings : List (Sentinel × Row)} {err : GoError} :
    firstMapping mappings err = none ↔
      ∀ sentinel ∈ mappings.map Prod.fst, errorsIs sentinel err = false := by
  simp [firstMapping]

section Mappers

variable (quote : String → String)

def toGRPCStatus : Option GoError → GRPCStatus
  | none => ⟨.ok, ""⟩
  | some err =>
      match firstMapping grpcMappings err with
      | some code => ⟨code, errorText quote err⟩
      | none => ⟨.internal, "internal error"⟩

def toHTTPError : Option GoError → HTTPError
  | none => ⟨200, "", ""⟩
  | some err =>
      match firstMapping httpMappings err with
      | some (statusCode, code) => ⟨statusCode, code, errorText quote err⟩
      | none => ⟨500, "INTERNAL", "internal error"⟩

/-- The close frame carries the fixed reason of the table, not the text. -/
def toWebSocketClose : Option GoError → WebSocketClose
  | none => ⟨closeNormalClosure, "normal_closure"⟩
  | some err =>
      match firstMapping wsMappings err with
      | some (code, reason) => ⟨code, reason⟩
      | none => ⟨closeInternalError, "internal_error"⟩

end Mappers

section SameShape

mutual

/-- The trees have the same sentinels in the same places; the texts of the
other errors are arbitrary. -/
def SameShape : GoError → GoError → Prop
  | .sentinel left, .sentinel right => left = right
  | .plain _, .plain _ => True
  | .errorf _ _ left, .errorf _ _ right => AllSameShape left right
  | .join left, .join right => AllSameShape left right
  | _, _ => False

def AllSameShape : List GoError → List GoError → Prop
  | [], [] => True
  | left :: lefts, right :: rights =>
      SameShape left right ∧ AllSameShape lefts rights
  | _, _ => False

end

mutual

theorem sameShape_refl : (err : GoError) → SameShape err err
  | .sentinel _ => by simp [SameShape]
  | .plain _ => by simp [SameShape]
  | .errorf _ _ causes => by
      rw [SameShape]
      exact allSameShape_refl causes
  | .join causes => by
      rw [SameShape]
      exact allSameShape_refl causes

theorem allSameShape_refl : (errs : List GoError) → AllSameShape errs errs
  | [] => by simp [AllSameShape]
  | err :: errs => by
      rw [AllSameShape]
      exact ⟨sameShape_refl err, allSameShape_refl errs⟩

end

mutual

/-- Errors of the same shape have the same sentinels. -/
theorem errorsIs_of_sameShape (target : Sentinel) :
    (left right : GoError) → SameShape left right →
      errorsIs target left = errorsIs target right
  | .sentinel left, .sentinel right, hshape => by
      rw [SameShape] at hshape
      rw [hshape]
  | .plain _, .plain _, _ => by rw [errorsIs, errorsIs]
  | .errorf _ _ left, .errorf _ _ right, hshape => by
      rw [SameShape] at hshape
      rw [errorsIs, errorsIs, anyIs_of_allSameShape target left right hshape]
  | .join left, .join right, hshape => by
      rw [SameShape] at hshape
      rw [errorsIs, errorsIs, anyIs_of_allSameShape target left right hshape]

theorem anyIs_of_allSameShape (target : Sentinel) :
    (left right : List GoError) → AllSameShape left right →
      anyIs target left = anyIs target right
  | [], [], _ => rfl
  | left :: lefts, right :: rights, hshape => by
      rw [AllSameShape] at hshape
      rw [anyIs, anyIs, errorsIs_of_sameShape target left right hshape.1,
        anyIs_of_allSameShape target lefts rights hshape.2]

end

theorem firstMapping_of_sameShape {Row : Type}
    (mappings : List (Sentinel × Row)) {left right : GoError}
    (hshape : SameShape left right) :
    firstMapping mappings left = firstMapping mappings right := by
  have hsame : (fun mapping : Sentinel × Row => errorsIs mapping.1 left) =
      fun mapping => errorsIs mapping.1 right := by
    funext mapping
    exact errorsIs_of_sameShape mapping.1 left right hshape
  rw [firstMapping, firstMapping, hsame]

end SameShape

section Messages

/-- Whether the error has a sentinel of the tables. -/
def mapped (err : GoError) : Bool :=
  grpcMappings.any fun mapping => errorsIs mapping.1 err

/-- Both tables map the same sentinels. -/
theorem mapped_sentinels :
    httpMappings.map Prod.fst = grpcMappings.map Prod.fst := by
  decide

theorem grpc_eq_none_iff {err : GoError} :
    firstMapping grpcMappings err = none ↔ mapped err = false := by
  rw [firstMapping_eq_none_iff]
  simp [mapped]

theorem http_eq_none_iff {err : GoError} :
    firstMapping httpMappings err = none ↔ mapped err = false := by
  rw [firstMapping_eq_none_iff, mapped_sentinels, ← firstMapping_eq_none_iff,
    grpc_eq_none_iff]

theorem mapped_of_sameShape {left right : GoError}
    (hshape : SameShape left right) : mapped left = mapped right := by
  have hsame : (fun mapping : Sentinel × Code => errorsIs mapping.1 left) =
      fun mapping => errorsIs mapping.1 right := by
    funext mapping
    exact errorsIs_of_sameShape mapping.1 left right hshape
  rw [mapped, mapped, hsame]

variable (quote : String → String) {left right : GoError}

/-- The code does not depend on texts. -/
theorem grpcCode_of_sameShape (hshape : SameShape left right) :
    (toGRPCStatus quote (some left)).code =
      (toGRPCStatus quote (some right)).code := by
  simp only [toGRPCStatus, firstMapping_of_sameShape grpcMappings hshape]
  cases firstMapping grpcMappings right <;> rfl

theorem httpCode_of_sameShape (hshape : SameShape left right) :
    (toHTTPError quote (some left)).statusCode =
        (toHTTPError quote (some right)).statusCode ∧
      (toHTTPError quote (some left)).code =
        (toHTTPError quote (some right)).code := by
  simp only [toHTTPError, firstMapping_of_sameShape httpMappings hshape]
  cases firstMapping httpMappings right <;> exact ⟨rfl, rfl⟩

/-- The status is the same exactly if it is the fixed one or the texts are. -/
theorem toGRPCStatus_eq_iff (hshape : SameShape left right) :
    toGRPCStatus quote (some left) = toGRPCStatus quote (some right) ↔
      mapped left = false ∨ errorText quote left = errorText quote right := by
  rw [mapped_of_sameShape hshape, ← grpc_eq_none_iff]
  simp only [toGRPCStatus, firstMapping_of_sameShape grpcMappings hshape]
  cases firstMapping grpcMappings right <;> simp

theorem toHTTPError_eq_iff (hshape : SameShape left right) :
    toHTTPError quote (some left) = toHTTPError quote (some right) ↔
      mapped left = false ∨ errorText quote left = errorText quote right := by
  rw [mapped_of_sameShape hshape, ← http_eq_none_iff]
  simp only [toHTTPError, firstMapping_of_sameShape httpMappings hshape]
  cases firstMapping httpMappings right <;> simp

end Messages

end MessagingPlatform.Mappers
