import MessagingPlatform.Auth.Parser
import MessagingPlatform.System.Deployment

/-!
# Validation of access tokens

Which tokens the two validations accept.  The refresh flow waives the expiry
by classifying the joined errors of the parser; it comes down to every check
of the parser except the expiry.  `iat` is among neither.
-/

namespace MessagingPlatform.Validation

open Instants
open Errors
open Primitives
open MessagingPlatform.Parser
open Deployment

/-- What both validations require of a token. -/
structure Valid (lib : TokenLibrary) (cfg : AuthServiceConfig) (now : Time)
    (tokenString : String) (claims : Claims) : Prop where
  signed : ∃ kid key, kid ≠ "" ∧ cfg.publicKey kid = .ok key ∧
    Signed lib ⟨cfg.issuer, cfg.audience, ["RS256"], true⟩ (keyFunc cfg)
      tokenString "RS256" (some kid) key claims
  issuer : claims.issuer = cfg.issuer
  audience : cfg.audience ∈ claims.audience
  expiresAt : claims.expiresAt ≠ none
  notBefore : ∀ notBefore ∈ claims.notBefore, notBefore * second ≤ now
  sessionID : claims.sessionID ≠ ""

/-- The token has not expired. -/
def Unexpired (now : Time) (claims : Claims) : Prop :=
  ∃ expiresAt ∈ claims.expiresAt, now < expiresAt * second

/-- The token was not issued in the future. -/
def IssuedBy (now : Time) (claims : Claims) : Prop :=
  ∀ issuedAt ∈ claims.issuedAt, issuedAt * second ≤ now

variable {lib : TokenLibrary} {cfg : AuthServiceConfig} {now : Time}
variable {tokenString : String} {claims : Claims} {options : ParserOptions}

section Checks

theorem verifyNotBefore_eq_nil_iff :
    verifyNotBefore now claims = [] ↔
      ∀ notBefore ∈ claims.notBefore, notBefore * second ≤ now := by
  unfold verifyNotBefore
  cases claims.notBefore with
  | none | some => simp

theorem verifyAudience_eq_nil_iff (haudience : options.audience ≠ "") :
    verifyAudience options claims = [] ↔
      options.audience ∈ claims.audience := by
  unfold verifyAudience
  split
  · next hmissing =>
      refine iff_of_false (by simp) ?_
      rcases hmissing with hempty | hblank
      · simp [hempty]
      · simp [hblank, haudience]
  · simp

theorem verifyIssuer_eq_nil_iff (hissuer : options.issuer ≠ "") :
    verifyIssuer options claims = [] ↔ claims.issuer = options.issuer := by
  unfold verifyIssuer
  rw [if_neg hissuer]
  split
  · next hblank =>
      refine iff_of_false (by simp) ?_
      rw [hblank]
      exact hissuer.symm
  · simp

/-- The errors of the checks other than that of the expiry. -/
def otherErrors (options : ParserOptions) (now : Time) (claims : Claims) :
    List TokenError :=
  verifyNotBefore now claims ++
    (verifyAudience options claims ++ verifyIssuer options claims)

theorem expired_not_mem_otherErrors :
    TokenError.expired ∉ otherErrors options now claims := by
  unfold otherErrors verifyNotBefore verifyAudience verifyIssuer
  split <;> split_ifs <;> simp

theorem otherErrors_eq_nil_iff (haudience : options.audience ≠ "")
    (hissuer : options.issuer ≠ "") :
    otherErrors options now claims = [] ↔
      (∀ notBefore ∈ claims.notBefore, notBefore * second ≤ now) ∧
      options.audience ∈ claims.audience ∧
      claims.issuer = options.issuer := by
  rw [otherErrors, List.append_eq_nil_iff, List.append_eq_nil_iff,
    verifyNotBefore_eq_nil_iff, verifyAudience_eq_nil_iff haudience,
    verifyIssuer_eq_nil_iff hissuer]

end Checks

section Classification

/-- A list in which an expiry stands before errors of other kinds. -/
theorem onlyExpiredError_iff {others : List TokenError}
    (hothers : TokenError.expired ∉ others) :
    onlyExpiredError (TokenError.expired :: others) = true ↔ others = [] := by
  constructor
  · intro honly
    cases others with
    | nil => rfl
    | cons head tail =>
        cases head <;> simp [onlyExpiredError] at honly hothers
  · rintro rfl
    rfl

theorem not_onlyExpiredError {errors : List TokenError}
    (herrors : TokenError.expired ∉ errors) :
    onlyExpiredError errors = false := by
  simp [onlyExpiredError, herrors]

/-- A missing required claim is not waived. -/
theorem not_onlyExpiredError_of_missing {errors : List TokenError}
    (hmissing : TokenError.requiredClaimMissing ∈ errors) :
    onlyExpiredError errors = false := by
  simp [onlyExpiredError, hmissing]

/-- The errors of the claims, with the expiry waived or not. -/
theorem waived_iff (hrequired : options.expirationRequired = true)
    (ignoreExpiry : Bool) :
    (validate options now claims = [] ∨
        (ignoreExpiry = true ∧
          onlyExpiredError (validate options now claims) = true)) ↔
      claims.expiresAt ≠ none ∧ otherErrors options now claims = [] ∧
        (ignoreExpiry = true ∨ Unexpired now claims) := by
  have hsplit : validate options now claims =
      verifyExpiresAt options now claims ++
        otherErrors options now claims := rfl
  have hothers : TokenError.expired ∉ otherErrors options now claims :=
    expired_not_mem_otherErrors
  rw [hsplit, verifyExpiresAt]
  cases hexpiry : claims.expiresAt with
  | none =>
      rw [if_pos hrequired]
      have hmissing := not_onlyExpiredError_of_missing
        (List.mem_cons_self (a := TokenError.requiredClaimMissing)
          (l := otherErrors options now claims))
      simp [hmissing]
  | some expiresAt =>
      by_cases hfresh : now < expiresAt * second
      · have hunexpired : Unexpired now claims :=
          ⟨expiresAt, hexpiry, hfresh⟩
        simp [hfresh, hunexpired, not_onlyExpiredError hothers]
      · have hexpired : ¬ Unexpired now claims := by
          rintro ⟨found, hfound, hbefore⟩
          rw [hexpiry, Option.mem_some_iff] at hfound
          exact hfresh (hfound ▸ hbefore)
        simp [hfresh, hexpired, onlyExpiredError_iff hothers, and_comm]

end Classification

section Validators

/-- The key function for the method that the parser lets through. -/
theorem keyFunc_eq_ok_iff {kid : Option String} {key : String} :
    keyFunc cfg ⟨"RS256", kid⟩ = .ok key ↔
      ∃ found, kid = some found ∧ found ≠ "" ∧
        cfg.publicKey found = .ok key := by
  cases kid with
  | none => simp [keyFunc]
  | some found =>
      by_cases hempty : found = ""
      · simp [keyFunc, hempty]
      · simp [keyFunc, hempty]

/-- The service's reading of what the parser returned. -/
theorem parseToken_eq_ok_iff {parsed : ParsedToken} (ignoreExpiry : Bool)
    (hparsed : cfg.parseWithClaims ⟨cfg.issuer, cfg.audience, ["RS256"], true⟩
      (keyFunc cfg) now tokenString = parsed) :
    parseToken cfg now tokenString ignoreExpiry = .ok claims ↔
      (parsed.errors = [] ∨ (ignoreExpiry = true ∧
        onlyExpiredError parsed.errors = true ∧ parsed.hasToken = true)) ∧
      parsed.claims = claims ∧ claims.sessionID ≠ "" := by
  unfold parseToken
  rw [hparsed]
  constructor
  · intro hok
    dsimp only at hok
    split_ifs at hok with hrefused hsession
    cases hok
    refine ⟨?_, rfl, hsession⟩
    by_cases hnone : parsed.errors = []
    · exact Or.inl hnone
    · have hsome : parsed.errors.isEmpty = false := by
        rw [Bool.eq_false_iff, ne_eq, List.isEmpty_iff]
        exact hnone
      rw [hsome] at hrefused
      simp only [Bool.not_false, Bool.true_and, Bool.not_eq_eq_eq_not,
        Bool.not_true, Bool.not_eq_false, Bool.and_eq_true] at hrefused
      exact Or.inr ⟨hrefused.1.1, hrefused.1.2, hrefused.2⟩
  · rintro ⟨haccepted, rfl, hsession⟩
    dsimp only
    rw [if_neg, if_neg hsession]
    rcases haccepted with hnone | ⟨hignore, honly, htoken⟩
    · simp [hnone]
    · simp [hignore, honly, htoken]

variable (hlib : cfg.parseWithClaims = parseWithClaims lib)
variable (hissuer : cfg.issuer ≠ "") (haudience : cfg.audience ≠ "")

include hlib hissuer haudience

/-- The tokens that the service accepts. -/
theorem parseToken_eq_ok_iff_valid (ignoreExpiry : Bool) :
    parseToken cfg now tokenString ignoreExpiry = .ok claims ↔
      Valid lib cfg now tokenString claims ∧
        (ignoreExpiry = true ∨ Unexpired now claims) := by
  rw [parseToken_eq_ok_iff ignoreExpiry rfl, hlib, parseWithClaims]
  cases hverified : verifySignature lib
      ⟨cfg.issuer, cfg.audience, ["RS256"], true⟩ (keyFunc cfg)
      tokenString with
  | error parsed =>
      refine iff_of_false ?_ ?_
      · rintro ⟨haccepted, -⟩
        rcases errors_of_verifySignature hverified with herrors | herrors |
          herrors <;> simp [herrors, onlyExpiredError] at haccepted
      · rintro ⟨hvalid, -⟩
        obtain ⟨kid, key, -, -, hsigned⟩ := hvalid.signed
        rw [verifySignature_eq_ok_iff.mpr ⟨_, _, _, hsigned⟩] at hverified
        cases hverified
  | ok found =>
      simp only [and_true]
      rw [waived_iff rfl, otherErrors_eq_nil_iff haudience hissuer]
      constructor
      · rintro ⟨⟨hexpiry, ⟨hnotBefore, haud, hiss⟩, hwaived⟩, rfl, hsession⟩
        obtain ⟨alg, kid, key, hsigned⟩ :=
          verifySignature_eq_ok_iff.mp hverified
        obtain rfl : alg = "RS256" := List.mem_singleton.mp hsigned.methods.2
        obtain ⟨name, rfl, hname, hkey⟩ := keyFunc_eq_ok_iff.mp hsigned.lookup
        exact ⟨⟨⟨name, key, hname, hkey, hsigned⟩, hiss, haud, hexpiry,
          hnotBefore, hsession⟩, hwaived⟩
      · rintro ⟨hvalid, hwaived⟩
        obtain ⟨kid, key, -, -, hsigned⟩ := hvalid.signed
        have hsame := verifySignature_eq_ok_iff.mpr ⟨_, _, _, hsigned⟩
        rw [hverified] at hsame
        cases hsame
        exact ⟨⟨hvalid.expiresAt, ⟨hvalid.notBefore, hvalid.audience,
          hvalid.issuer⟩, hwaived⟩, rfl, hvalid.sessionID⟩

end Validators

/-- The refresh flow accepts exactly the tokens that pass every check except
the expiry, and the full validation those of them that have not expired.  It
also refuses what was issued in the future only if such a token fails another
check. -/
theorem validations_accept_iff (lib : TokenLibrary) (cfg : AuthServiceConfig)
    (hlib : cfg.parseWithClaims = parseWithClaims lib)
    (hissuer : cfg.issuer ≠ "") (haudience : cfg.audience ≠ "")
    (now : Time) (tokenString : String) :
    (∀ claims, validateIgnoreExpiry cfg now tokenString = .ok claims ↔
      Valid lib cfg now tokenString claims) ∧
    (∀ claims, validateAccessToken cfg now tokenString = .ok claims ↔
      Valid lib cfg now tokenString claims ∧ Unexpired now claims) ∧
    ((∀ claims, validateIgnoreExpiry cfg now tokenString = .ok claims ↔
        Valid lib cfg now tokenString claims ∧ IssuedBy now claims) ↔
      ∀ claims, Valid lib cfg now tokenString claims →
        IssuedBy now claims) := by
  have hwaived : ∀ claims,
      validateIgnoreExpiry cfg now tokenString = .ok claims ↔
        Valid lib cfg now tokenString claims := by
    intro claims
    rw [validateIgnoreExpiry,
      parseToken_eq_ok_iff_valid hlib hissuer haudience]
    simp
  refine ⟨hwaived, ?_, ?_⟩
  · intro claims
    rw [validateAccessToken,
      parseToken_eq_ok_iff_valid hlib hissuer haudience]
    simp
  · refine forall_congr' fun claims => ?_
    rw [hwaived claims]
    exact iff_self_and

section Tokens

/-- A text in pieces. -/
def concat (pieces : List String) : String := pieces.foldr (· ++ ·) ""

theorem concat_dotless {pieces : List String}
    (hpieces : ∀ piece ∈ pieces, '.' ∉ piece.toList) :
    '.' ∉ (concat pieces).toList := by
  induction pieces with
  | nil => decide
  | cons piece rest ih =>
      rw [List.forall_mem_cons] at hpieces
      change '.' ∉ (piece ++ concat rest).toList
      rw [String.toList_append, List.mem_append, not_or]
      exact ⟨hpieces.1, ih hpieces.2⟩

/-- The public key of the signer, PKIX, base64. -/
def signerDER : String :=
    "MIGfMA0GCSqGSIb3DQEBAQUAA4GNADCBiQKBgQC4D7wrFkwnYPSXhws1la6I5O" ++
    "NPhimMpGNaecSc46RYd9l7t3DRwVX4hw4AlGPIZAZRb3KVLns8B6yb5cXKVsyU" ++
    "O/cuQdE4t5FOHSFo+JZICJS9X41MmZrrzOd3Y5CP9G0rw+LKgc8ViLycipTv6U" ++
    "cyETnOEXQMywrAzZSJwKKCZQIDAQAB"

def headerPart : String :=
  concat
    ["eyJhbGciOiJSUzI1NiIsImtpZCI6Imtl", "eS0wMDEiLCJ0eXAiOiJKV1QifQ"]

def claimsPart : String :=
  concat
    ["eyJpc3MiOiJtZXNzYWdpbmctcGxhdGZv", "cm0iLCJzdWIiOiJ1c2VyXzEyMyIsImF1",
      "ZCI6WyJtZXNzYWdpbmctYXBpIl0sImV4", "cCI6MTcwMDAwMzYwMCwiaWF0IjoxNzAw",
      "MDAwMDAwLCJqdGkiOiI5ZjBjMWQ5ZS01", "MmE0LTRhMzgtOWE0My0yZjNhOWY0Zjdj",
      "MTEiLCJzaWQiOiJzZXNzXzQ1NiIsInNj", "b3BlIjoibWVzc2FnaW5nIn0"]

def signaturePart : String :=
  concat
    ["HDlsI9u3O7UlstlUpape-yMGHwm-l5Rj", "EhDxSEGDfZVQlDbw7-HxqfA6RH8LkWSw",
      "I1rM7XRdjkF080qj48ZSHPvXhLla6sV5", "c87L3-8uZMC0cNc8M3DdvAgYcBsvE435",
      "sIVIT2HESEAJAEnLiVRWIFQ8HrtSjYJ7", "zkJXFjzymz4"]

/-- The bytes of the signature, base64. -/
def signatureBytes : String :=
    "HDlsI9u3O7UlstlUpape+yMGHwm+l5RjEhDxSEGDfZVQlDbw7+HxqfA6RH8LkW" ++
    "SwI1rM7XRdjkF080qj48ZSHPvXhLla6sV5c87L3+8uZMC0cNc8M3DdvAgYcBsv" ++
    "E435sIVIT2HESEAJAEnLiVRWIFQ8HrtSjYJ7zkJXFjzymz4="

def futureClaimsPart : String :=
  concat
    ["eyJpc3MiOiJtZXNzYWdpbmctcGxhdGZv", "cm0iLCJzdWIiOiJ1c2VyXzEyMyIsImF1",
      "ZCI6WyJtZXNzYWdpbmctYXBpIl0sImV4", "cCI6MTcwMDA5MDAwMCwiaWF0IjoxNzAw",
      "MDg2NDAwLCJqdGkiOiI1ZDBlNGI3Yy04", "YTBlLTRjNTUtOGI1ZS0wYjdkMWMyZjZl",
      "MjIiLCJzaWQiOiJzZXNzXzQ1NiIsInNj", "b3BlIjoibWVzc2FnaW5nIn0"]

def futureSignaturePart : String :=
  concat
    ["mqdT3IUsv26cEcKMqt-OS3Q1VwdGFyWG", "FgGrZPJX9PAwfvBjH616-93j-Fw9MDUk",
      "U80di29Sd6ZQe8md7XutNhFn-y8FXmII", "bpV3HocOfscu-r3SV1wwB-qelXWu7bnk",
      "UyOri8xkbmLCw3PBqiCzxuhOXwSk4x1i", "W1hV9O2vpK4"]

def futureSignatureBytes : String :=
    "mqdT3IUsv26cEcKMqt+OS3Q1VwdGFyWGFgGrZPJX9PAwfvBjH616+93j+Fw9MD" ++
    "UkU80di29Sd6ZQe8md7XutNhFn+y8FXmIIbpV3HocOfscu+r3SV1wwB+qelXWu" ++
    "7bnkUyOri8xkbmLCw3PBqiCzxuhOXwSk4x1iW1hV9O2vpK4="

def tokenClaims (jti : String) (issuedAt expiresAt : ℤ) : Claims :=
  { subject := "user_123", issuer := "messaging-platform"
    audience := ["messaging-api"], issuedAt := some issuedAt
    expiresAt := some expiresAt, notBefore := none, id := jti
    sessionID := "sess_456", scope := "messaging" }

/-- The claims of a token minted in the evening, -/
def eveningClaims : Claims :=
  tokenClaims "9f0c1d9e-52a4-4a38-9a43-2f3a9f4f7c11" 1700000000 1700003600

/-- and of one that is dated a day later. -/
def futureClaims : Claims :=
  tokenClaims "5d0e4b7c-8a0e-4c55-8b5e-0b7d1c2f6e22" 1700086400 1700090000

/-- The library on the segments of one token; it decodes no other. -/
def library (claimsText signatureText signature : String) (claims : Claims) :
    TokenLibrary where
  decodeHeader := fun part =>
    if part = headerPart then some (some "RS256", some "key-001") else none
  decodeClaims := fun part => if part = claimsText then some claims else none
  decodeSegment := fun part =>
    if part = signatureText then some signature else none
  hasSigningMethod := fun alg => ["RS256", "RS384", "RS512"].contains alg
  verify := fun alg text found key =>
    alg == "RS256" && text == headerPart ++ "." ++ claimsText &&
      found == signature && key == signerDER

def validator (lib : TokenLibrary) : AuthServiceConfig :=
  { deployment [] with
    parseWithClaims := parseWithClaims lib
    publicKey := fun kid =>
      if kid = "key-001" then .ok signerDER
      else .error (.errorf "unknown key ID %q" [kid] []) }

def eveningLibrary : TokenLibrary :=
  library claimsPart signaturePart signatureBytes eveningClaims

def futureLibrary : TokenLibrary :=
  library futureClaimsPart futureSignaturePart futureSignatureBytes
    futureClaims

def eveningToken : String :=
  headerPart ++ "." ++ claimsPart ++ "." ++ signaturePart

def futureToken : String :=
  headerPart ++ "." ++ futureClaimsPart ++ "." ++ futureSignaturePart

theorem headerPart_dotless : '.' ∉ headerPart.toList :=
  concat_dotless (by decide +kernel)

/-- The signature of a token is valid under its library. -/
theorem signed_library {claimsText signatureText signature : String}
    (hclaims : '.' ∉ claimsText.toList)
    (hsignature : '.' ∉ signatureText.toList) :
    ∃ kid key, kid ≠ "" ∧
      (validator (library claimsText signatureText signature
        claims)).publicKey kid = .ok key ∧
      Signed (library claimsText signatureText signature claims)
        ⟨"messaging-platform", "messaging-api", ["RS256"], true⟩
        (keyFunc (validator (library claimsText signatureText signature
          claims)))
        (headerPart ++ "." ++ claimsText ++ "." ++ signatureText) "RS256"
        (some kid) key claims := by
  refine ⟨"key-001", signerDER, by decide, rfl, ⟨rfl, by simp⟩, rfl,
    headerPart, claimsText, signatureText, signature,
    splitToken_append headerPart_dotless hclaims hsignature, ?_, ?_, ?_, ?_⟩
  all_goals simp [library]

end Tokens

/-- Two hours later the token of the evening passes every check except the
expiry, and the refresh flow accepts it. -/
theorem eveningToken_waived :
    validateIgnoreExpiry (validator eveningLibrary) (1700007200 * second)
      eveningToken = .ok eveningClaims ∧
    ¬ Unexpired (1700007200 * second) eveningClaims := by
  have hvalid : Valid eveningLibrary (validator eveningLibrary)
      (1700007200 * second) eveningToken eveningClaims :=
    { signed := signed_library (concat_dotless (by decide +kernel))
        (concat_dotless (by decide +kernel))
      issuer := rfl
      audience := List.mem_singleton_self _
      expiresAt := by decide
      notBefore := by
        intro notBefore hnone
        cases hnone
      sessionID := by decide }
  have haccepts := validations_accept_iff eveningLibrary
    (validator eveningLibrary) rfl (by decide) (by decide)
    (1700007200 * second) eveningToken
  refine ⟨(haccepts.1 eveningClaims).mpr hvalid, ?_⟩
  rintro ⟨expiresAt, hexpiry, hbefore⟩
  cases hexpiry
  exact absurd hbefore (by decide)

/-- A token that is dated a day ahead is accepted. -/
theorem futureToken_accepted :
    validateIgnoreExpiry (validator futureLibrary) (1700000000 * second)
      futureToken = .ok futureClaims ∧
    validateAccessToken (validator futureLibrary) (1700000000 * second)
      futureToken = .ok futureClaims ∧
    ¬ IssuedBy (1700000000 * second) futureClaims := by
  have hvalid : Valid futureLibrary (validator futureLibrary)
      (1700000000 * second) futureToken futureClaims :=
    { signed := signed_library (concat_dotless (by decide +kernel))
        (concat_dotless (by decide +kernel))
      issuer := rfl
      audience := List.mem_singleton_self _
      expiresAt := by decide
      notBefore := by
        intro notBefore hnone
        cases hnone
      sessionID := by decide }
  have hlib : (validator futureLibrary).parseWithClaims =
      parseWithClaims futureLibrary := rfl
  have hunexpired : Unexpired (1700000000 * second) futureClaims :=
    ⟨1700090000, rfl, by decide⟩
  refine ⟨?_, ?_, ?_⟩
  · exact (parseToken_eq_ok_iff_valid hlib (by decide) (by decide) true).mpr
      ⟨hvalid, Or.inl rfl⟩
  · exact (parseToken_eq_ok_iff_valid hlib (by decide) (by decide) false).mpr
      ⟨hvalid, Or.inr hunexpired⟩
  · intro hissued
    have hbefore := hissued 1700086400 rfl
    exact absurd hbefore (by decide)

end MessagingPlatform.Validation
