import MessagingPlatform.App.Records
import MessagingPlatform.Domain.Errors

/-!
# Cryptographic primitives and token validation

What the service takes from libraries is a parameter: the two hash functions,
the JWT parser and signer, and the sort of the standard library, which
promises a sorted permutation and nothing about ties.  The rest of
`internal/auth` is translated: OTP codes and their MACs, refresh-token hashes
and the validation of access tokens.
-/

namespace MessagingPlatform.Primitives

open Instants
open Errors
open Records

/-- The claims of an access token.  Dates are Unix seconds. -/
structure Claims where
  subject : String
  issuer : String
  audience : List String
  issuedAt : Option ℤ
  expiresAt : Option ℤ
  notBefore : Option ℤ
  id : String
  sessionID : String
  scope : String
  deriving DecidableEq, Repr

/-- The header fields that the key function of the validator reads. -/
structure TokenHeader where
  alg : String
  kid : Option String
  deriving DecidableEq, Repr

/-- The errors by which the JWT library classifies a failed parse. -/
inductive TokenError where
  | malformed
  | unverifiable
  | signatureInvalid
  | requiredClaimMissing
  | invalidAudience
  | expired
  | usedBeforeIssued
  | invalidIssuer
  | notValidYet
  deriving DecidableEq, Repr

/-- What `jwt.ParseWithClaims` returns: the claims it filled in, whether the
token is non-nil, and the errors joined in its error, none on success. -/
structure ParsedToken where
  claims : Claims
  hasToken : Bool
  errors : List TokenError
  deriving DecidableEq, Repr

/-- The parser options of the validator. -/
structure ParserOptions where
  issuer : String
  audience : String
  validMethods : List String
  expirationRequired : Bool
  deriving DecidableEq, Repr

/-- Dependencies and configuration of the service. -/
structure AuthServiceConfig where
  sha256Hex : String → String
  hmacSHA256Hex : String → String → String
  parseWithClaims : ParserOptions → (TokenHeader → Except GoError String) →
    Time → String → ParsedToken
  signedString : String → String → Claims → String
  sortSlice : (SessionRecord → SessionRecord → Bool) → List SessionRecord →
    List SessionRecord
  sortSlice_perm : ∀ less sessions,
    (sortSlice less sessions).Perm sessions
  sortSlice_sorted : ∀ less sessions,
    (∀ left right, less left right = true → less right left = false) →
    (∀ left middle right, less left middle = false →
      less middle right = false → less left right = false) →
    (sortSlice less sessions).Pairwise fun left right =>
      less right left = false
  pepper : String
  issuer : String
  audience : String
  signingKey : String
  signingKeyID : String
  publicKey : String → Except GoError String

variable (cfg : AuthServiceConfig)

section OTP

/-- `fmt.Sprintf("%06d", n)`. -/
def formatOTP (number : ℕ) : String := zeroPadded 6 number

/-- The exclusive bound of the random number behind a code. -/
def otpMax : ℕ := 1000000

def hashPhone (phone : String) : String := cfg.sha256Hex phone

def computeOTPMAC (otp phoneHash expiresAt : String) : String :=
  cfg.hmacSHA256Hex cfg.pepper (otp ++ phoneHash ++ expiresAt)

def verifyOTPMAC (otpCandidate phoneHash expiresAt storedMAC : String) :
    Bool :=
  computeOTPMAC cfg otpCandidate phoneHash expiresAt == storedMAC

end OTP

section RefreshTokens

def hashRefreshToken (token : String) : String := cfg.sha256Hex token

def validateRefreshHash (token storedHash : String) : Bool :=
  hashRefreshToken cfg token == storedHash

end RefreshTokens

section Validation

/-- Whether the errors say that the token has expired and nothing else. -/
def onlyExpiredError (errors : List TokenError) : Bool :=
  errors.contains .expired &&
    !(errors.contains .malformed || errors.contains .unverifiable ||
      errors.contains .signatureInvalid || errors.contains .notValidYet ||
      errors.contains .invalidAudience || errors.contains .invalidIssuer ||
      errors.contains .requiredClaimMissing ||
      errors.contains .usedBeforeIssued)

def TokenError.text : TokenError → String
  | .malformed => "token is malformed"
  | .unverifiable => "token is unverifiable"
  | .signatureInvalid => "token signature is invalid"
  | .requiredClaimMissing => "token is missing required claim"
  | .invalidAudience => "token has invalid audience"
  | .expired => "token is expired"
  | .usedBeforeIssued => "token used before issued"
  | .invalidIssuer => "token has invalid issuer"
  | .notValidYet => "token is not valid yet"

/-- `Validator.keyFunc`. -/
def keyFunc (header : TokenHeader) : Except GoError String :=
  if !(["RS256", "RS384", "RS512"].contains header.alg) then
    .error (.errorf "unexpected signing method: %v" [header.alg] [])
  else
    match header.kid with
    | none => .error (.plain "missing or invalid kid in token header")
    | some kid =>
        if kid = "" then
          .error (.plain "missing or invalid kid in token header")
        else cfg.publicKey kid

/-- `Validator.parseToken`, with the instant its time function returns. -/
def parseToken (now : Time) (tokenString : String) (ignoreExpiry : Bool) :
    Except GoError Claims :=
  let parsed := cfg.parseWithClaims
    ⟨cfg.issuer, cfg.audience, ["RS256"], true⟩ (keyFunc cfg) now tokenString
  if !parsed.errors.isEmpty &&
      !(ignoreExpiry && onlyExpiredError parsed.errors && parsed.hasToken) then
    .error (.errorf "invalid access token: %w" []
      [.join (parsed.errors.map fun tokenError => .plain tokenError.text)])
  else if parsed.claims.sessionID = "" then
    .error (.errorf "missing sid claim: %w" [] [.sentinel .errUnauthorized])
  else .ok parsed.claims

def validateAccessToken (now : Time) (tokenString : String) :
    Except GoError Claims :=
  parseToken cfg now tokenString false

def validateIgnoreExpiry (now : Time) (tokenString : String) :
    Except GoError Claims :=
  parseToken cfg now tokenString true

end Validation

end MessagingPlatform.Primitives
