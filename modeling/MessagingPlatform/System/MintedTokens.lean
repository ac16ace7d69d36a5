import MessagingPlatform.Adapter.StoreSteps
import MessagingPlatform.Auth.Signer
import MessagingPlatform.System.Validation

/-!
# Minted tokens and their validation

`MintAccessToken` returns an expiry at full resolution and signs its whole
second.  The two validations read the signed one: what they accept, and up to
when, follows from the parser and from what the library reads back.
-/

namespace MessagingPlatform.MintedTokens

open OneStep
open Instants
open Identifiers
open Primitives
open MessagingPlatform.Parser
open Signer
open Tables
open Operations
open Stores
open StoreRules
open StoreSteps
open Validation
open Deployment (deployment evening)

/-- The claims are those of the mint. -/
structure AsMinted (userID sessionID : String) (minted : MintResult)
    (claims : Claims) : Prop where
  subject : claims.subject = userID
  sessionID : claims.sessionID = sessionID
  jti : claims.id = minted.jti
  scope : claims.scope = "messaging"

/-- The signed second is over, the reported expiry has not come. -/
def Overstated (minted : MintResult) (now : Time) : Prop :=
  unix minted.expiresAt * second ≤ now ∧ now < minted.expiresAt

/-- A key store that serves the public key of the signing key. -/
structure ServesPair (cfg : AuthServiceConfig) (publicKey : String) : Prop where
  named : cfg.signingKeyID ≠ ""
  served : cfg.publicKey cfg.signingKeyID = .ok publicKey

variable {lib : TokenLibrary} {signer : TokenSigner} {cfg : AuthServiceConfig}
variable {accessTTL now : Time} {userID sessionID : String}
variable {store after : Store} {minted : MintResult} {claims : Claims}

/-- The claims that a mint has signed. -/
def signedClaims (cfg : AuthServiceConfig) (accessTTL : Time)
    (userID sessionID : String) (store : Store) (minted : MintResult) :
    Claims :=
  accessClaimsFor cfg accessTTL userID sessionID minted.jti store.clock

theorem asMinted_signedClaims :
    AsMinted userID sessionID minted
      (signedClaims cfg accessTTL userID sessionID store minted) :=
  ⟨rfl, rfl, rfl, rfl⟩

section Mints

variable (hsigner : cfg.signedString = signedString signer)

include hsigner

/-- What a mint returns, in terms of what it has signed. -/
theorem minted_eq
    (hmint : Ends (steps cfg)
      (mintAccessTokenFor cfg accessTTL userID sessionID).run store
      (.ok minted) after) :
    minted.token = signedString signer cfg.signingKey cfg.signingKeyID
        (signedClaims cfg accessTTL userID sessionID store minted) ∧
      minted.expiresAt = store.clock + accessTTL := by
  obtain ⟨found, heq, jti, -, -, rfl, -⟩ :=
    (returns_mintAccessTokenFor accessTTL userID sessionID _ _).mp hmint
  cases heq
  rw [← hsigner]
  exact ⟨rfl, rfl⟩

/-- A minted token is valid except for its expiry. -/
theorem valid_minted {publicKey : String} (hpair : ServesPair cfg publicKey)
    (hsession : sessionID ≠ "")
    (hmint : Ends (steps cfg)
      (mintAccessTokenFor cfg accessTTL userID sessionID).run store
      (.ok minted) after)
    (hround : ReadsBack lib signer cfg.signingKey cfg.signingKeyID
      (signedClaims cfg accessTTL userID sessionID store minted))
    (hverifies : Verifies lib signer cfg.signingKey cfg.signingKeyID publicKey
      (signedClaims cfg accessTTL userID sessionID store minted)) :
    Valid lib cfg now minted.token
      (signedClaims cfg accessTTL userID sessionID store minted) where
  signed := by
    rw [(minted_eq hsigner hmint).1]
    exact ⟨cfg.signingKeyID, publicKey, hpair.named, hpair.served,
      signed_signedString hround hverifies (List.mem_singleton_self _)
        (keyFunc_eq_ok_iff.mpr ⟨_, rfl, hpair.named, hpair.served⟩)⟩
  issuer := rfl
  audience := List.mem_singleton_self _
  expiresAt := Option.some_ne_none _
  notBefore := nofun
  sessionID := hsession

/-- A validation of a minted token can only find the claims that were signed,
and the full one finds them only up to the signed expiry. -/
theorem validations_of_minted {ignoreExpiry : Bool}
    (hlib : cfg.parseWithClaims = parseWithClaims lib)
    (hmint : Ends (steps cfg)
      (mintAccessTokenFor cfg accessTTL userID sessionID).run store
      (.ok minted) after)
    (hround : ReadsBack lib signer cfg.signingKey cfg.signingKeyID
      (signedClaims cfg accessTTL userID sessionID store minted))
    (hparsed : parseToken cfg now minted.token ignoreExpiry = .ok claims) :
    claims = signedClaims cfg accessTTL userID sessionID store minted ∧
      (ignoreExpiry = true ∨ now < unix minted.expiresAt * second) := by
  obtain ⟨htoken, hexpiry⟩ := minted_eq hsigner hmint
  obtain ⟨haccepted, hclaims, -⟩ :=
    (parseToken_eq_ok_iff ignoreExpiry rfl).mp hparsed
  rw [hlib, parseWithClaims] at haccepted hclaims
  cases hverified : verifySignature lib
      ⟨cfg.issuer, cfg.audience, ["RS256"], true⟩ (keyFunc cfg)
      minted.token with
  | error parsed =>
      rw [hverified] at haccepted
      rcases errors_of_verifySignature hverified with herrors | herrors |
        herrors <;> simp [herrors, onlyExpiredError] at haccepted
  | ok found =>
      rw [hverified] at haccepted hclaims
      obtain ⟨alg, kid, key, hsigned⟩ := verifySignature_eq_ok_iff.mp hverified
      rw [htoken] at hsigned
      obtain rfl := claims_of_signed hround hsigned
      refine ⟨hclaims.symm, ?_⟩
      rcases haccepted with hnone | ⟨hignore, -⟩
      · right
        rw [hexpiry]
        by_contra hexpired
        simp [validate, verifyExpiresAt, signedClaims, accessClaimsFor,
          hexpired] at hnone
      · exact .inl hignore

end Mints

/-- A minted token carries what it was minted with.  The full validation accepts
it exactly up to the reported expiry, unless it comes in the fraction of a
second that the signed expiry lacks; without the expiry it is always
accepted. -/
theorem mint_validate_iff (lib : TokenLibrary) (signer : TokenSigner)
    (cfg : AuthServiceConfig) (publicKey : String)
    (hlib : cfg.parseWithClaims = parseWithClaims lib)
    (hsigner : cfg.signedString = signedString signer)
    (hissuer : cfg.issuer ≠ "") (haudience : cfg.audience ≠ "")
    (hpair : ServesPair cfg publicKey) (accessTTL : Time)
    (userID sessionID : String) (hsession : sessionID ≠ "")
    (store after : Store) (minted : MintResult)
    (hmint : Ends (steps cfg)
      (mintAccessTokenFor cfg accessTTL userID sessionID).run store
      (.ok minted) after)
    (hround : ReadsBack lib signer cfg.signingKey cfg.signingKeyID
      (signedClaims cfg accessTTL userID sessionID store minted))
    (hverifies : Verifies lib signer cfg.signingKey cfg.signingKeyID publicKey
      (signedClaims cfg accessTTL userID sessionID store minted))
    (now : Time) :
    (((∃ claims, validateAccessToken cfg now minted.token = .ok claims) ↔
        now < minted.expiresAt) ↔ ¬ Overstated minted now) ∧
    (∀ claims, validateAccessToken cfg now minted.token = .ok claims →
      AsMinted userID sessionID minted claims) ∧
    ∃ claims, validateIgnoreExpiry cfg now minted.token = .ok claims ∧
      AsMinted userID sessionID minted claims := by
  have hvalid : Valid lib cfg now minted.token _ := valid_minted hsigner hpair
    hsession hmint hround hverifies
  have hexpiry := (minted_eq hsigner hmint).2
  have haccepted : (∃ claims, validateAccessToken cfg now minted.token =
      .ok claims) ↔ now < unix minted.expiresAt * second := by
    constructor
    · rintro ⟨claims, hparsed⟩
      exact (validations_of_minted hsigner hlib hmint hround
        hparsed).2.resolve_left Bool.false_ne_true
    · intro hunexpired
      rw [hexpiry] at hunexpired
      exact ⟨_, (parseToken_eq_ok_iff_valid hlib hissuer haudience false).mpr
        ⟨hvalid, .inr ⟨_, rfl, hunexpired⟩⟩⟩
  have hfloor : unix minted.expiresAt * second ≤ minted.expiresAt :=
    Int.ediv_mul_le _ (by decide)
  refine ⟨?_, ?_, ?_⟩
  · rw [haccepted, Overstated]
    constructor
    · rintro hagree ⟨hover, hreported⟩
      exact absurd (hagree.mpr hreported) (not_lt.mpr hover)
    · intro hnot
      exact ⟨fun hunexpired => lt_of_lt_of_le hunexpired hfloor,
        fun hreported => not_le.mp fun hover => hnot ⟨hover, hreported⟩⟩
  · intro claims hparsed
    obtain ⟨rfl, -⟩ :=
      validations_of_minted hsigner hlib hmint hround hparsed
    exact asMinted_signedClaims
  · exact ⟨_, (parseToken_eq_ok_iff_valid hlib hissuer haudience true).mpr
      ⟨hvalid, .inl rfl⟩, asMinted_signedClaims⟩

section Runs

/-- The signer on the segments of one token; it encodes no other. -/
def eveningSigner : TokenSigner where
  encodeHeader := fun _ _ => headerPart
  encodeClaims := fun claims =>
    if claims = eveningClaims then claimsPart else ""
  encodeSegment := fun bytes =>
    if bytes = signatureBytes then signaturePart else ""
  sign := fun _ _ text =>
    if text = headerPart ++ "." ++ claimsPart then signatureBytes else ""

def minter : AuthServiceConfig :=
  { validator eveningLibrary with
    signedString := signedString eveningSigner
    signingKeyID := "key-001" }

/-- The token of the evening, minted at some instant. -/
def mintedAt (clock : Time) : MintResult :=
  mintedTokenFor minter accessTokenLifetime "user_123" "sess_456"
    "9f0c1d9e-52a4-4a38-9a43-2f3a9f4f7c11" clock

theorem ends_mintedAt (clock : Time) :
    ∃ after, Ends (steps minter) (mintAccessTokenFor minter accessTokenLifetime
      "user_123" "sess_456").run (Store.empty clock) (.ok (mintedAt clock))
      after :=
  ⟨_, (returns_mintAccessTokenFor _ _ _ _ _).mpr
    ⟨_, rfl, _, by decide +kernel, by simp [Store.empty], rfl, rfl⟩⟩

theorem signature_eveningSigner {privateKey : String} :
    signature eveningSigner privateKey "key-001" eveningClaims =
      signatureBytes := by
  simp [signature, signingString, eveningSigner]

theorem readsBack_evening :
    ReadsBack eveningLibrary eveningSigner minter.signingKey
      minter.signingKeyID eveningClaims where
  decodedHeader := by simp [eveningLibrary, library, eveningSigner, minter]
  decodedClaims := by simp [eveningLibrary, library, eveningSigner]
  decodedSignature := by
    rw [show minter.signingKeyID = "key-001" from rfl, signature_eveningSigner]
    simp [eveningLibrary, library, eveningSigner]
  dotlessHeader := headerPart_dotless
  dotlessClaims := by
    simp only [eveningSigner, if_true]
    exact concat_dotless (by decide +kernel)
  dotlessSignature := by
    rw [show minter.signingKeyID = "key-001" from rfl, signature_eveningSigner]
    simp only [eveningSigner, if_true]
    exact concat_dotless (by decide +kernel)

theorem verifies_evening :
    Verifies eveningLibrary eveningSigner minter.signingKey minter.signingKeyID
      signerDER eveningClaims where
  method := by decide
  verify := by
    rw [show minter.signingKeyID = "key-001" from rfl, signature_eveningSigner]
    simp [eveningLibrary, library, eveningSigner, signingString]

theorem servesPair_minter : ServesPair minter signerDER :=
  ⟨by decide, rfl⟩

/-- One second before its expiry the token of the evening is accepted. -/
theorem evening_accepted :
    (∃ claims, validateAccessToken minter (1700003599 * second)
        (mintedAt evening).token = .ok claims) ∧
      1700003599 * second < (mintedAt evening).expiresAt := by
  obtain ⟨after, hmint⟩ := ends_mintedAt evening
  have hclaims : signedClaims minter accessTokenLifetime "user_123" "sess_456"
      (Store.empty evening) (mintedAt evening) = eveningClaims := by decide
  have hagree := (mint_validate_iff eveningLibrary eveningSigner minter
    signerDER rfl rfl (by decide) (by decide) servesPair_minter
    accessTokenLifetime "user_123" "sess_456" (by decide) _ after
    (mintedAt evening) hmint (hclaims ▸ readsBack_evening)
    (hclaims ▸ verifies_evening) (1700003599 * second)).1
  have hnot : ¬ Overstated (mintedAt evening) (1700003599 * second) := by
    rintro ⟨hover, -⟩
    exact absurd hover (by decide)
  have hreported : 1700003599 * second < (mintedAt evening).expiresAt := by
    decide
  exact ⟨(hagree.mpr hnot).mpr hreported, hreported⟩

/-- Half a second after a whole one. -/
def lateMint : Time := evening + 500000000

/-- A token that was minted at half a second is refused while its reported
expiry has not come. -/
theorem lateMint_overstated :
    (∃ after, Ends (steps minter) (mintAccessTokenFor minter
      accessTokenLifetime "user_123" "sess_456").run (Store.empty lateMint)
      (.ok (mintedAt lateMint)) after) ∧
    1700003600 * second < (mintedAt lateMint).expiresAt ∧
    ¬ ∃ claims, validateAccessToken minter (1700003600 * second)
      (mintedAt lateMint).token = .ok claims := by
  obtain ⟨after, hmint⟩ := ends_mintedAt lateMint
  have hclaims : signedClaims minter accessTokenLifetime "user_123" "sess_456"
      (Store.empty lateMint) (mintedAt lateMint) = eveningClaims := by decide
  refine ⟨⟨after, hmint⟩, by decide, ?_⟩
  rintro ⟨claims, hparsed⟩
  obtain ⟨-, hwaived⟩ := validations_of_minted rfl rfl hmint
    (hclaims ▸ readsBack_evening) hparsed
  rcases hwaived with hfalse | hunexpired
  · cases hfalse
  · exact absurd hunexpired (by decide)

end Runs

end MessagingPlatform.MintedTokens
