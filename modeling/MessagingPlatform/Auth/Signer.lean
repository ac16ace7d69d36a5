import MessagingPlatform.Auth.Parser

/-!
# The JWT signer

golang-jwt's `SignedString`, over the encoders of the three segments and the
signature of a text, and what is assumed of the library: the parser reads back
the segments that the signer has written.
-/

namespace MessagingPlatform.Signer

open Errors
open Primitives
open MessagingPlatform.Parser

/-- The segment encoders of the library and the signature of a text. -/
structure TokenSigner where
  encodeHeader : String → String → String
  encodeClaims : Claims → String
  encodeSegment : String → String
  sign : String → String → String → String

section Signing

variable (signer : TokenSigner) (privateKey keyID : String) (claims : Claims)

/-- What is signed. -/
def signingString : String :=
  signer.encodeHeader "RS256" keyID ++ "." ++ signer.encodeClaims claims

/-- `Token.Sign`, with the RS256 method. -/
def signature : String :=
  signer.sign "RS256" privateKey (signingString signer keyID claims)

/-- `Token.SignedString`. -/
def signedString : String :=
  signingString signer keyID claims ++ "." ++
    signer.encodeSegment (signature signer privateKey keyID claims)

end Signing

/-- The library reads back the segments of a token.  They are base64url texts,
without dots. -/
structure ReadsBack (lib : TokenLibrary) (signer : TokenSigner)
    (privateKey keyID : String) (claims : Claims) : Prop where
  decodedHeader : lib.decodeHeader (signer.encodeHeader "RS256" keyID) =
    some (some "RS256", some keyID)
  decodedClaims : lib.decodeClaims (signer.encodeClaims claims) = some claims
  decodedSignature : lib.decodeSegment (signer.encodeSegment
      (signature signer privateKey keyID claims)) =
    some (signature signer privateKey keyID claims)
  dotlessHeader : '.' ∉ (signer.encodeHeader "RS256" keyID).toList
  dotlessClaims : '.' ∉ (signer.encodeClaims claims).toList
  dotlessSignature : '.' ∉ (signer.encodeSegment
    (signature signer privateKey keyID claims)).toList

/-- The signature of a token verifies under a public key. -/
structure Verifies (lib : TokenLibrary) (signer : TokenSigner)
    (privateKey keyID publicKey : String) (claims : Claims) : Prop where
  method : lib.hasSigningMethod "RS256" = true
  verify : lib.verify "RS256" (signingString signer keyID claims)
    (signature signer privateKey keyID claims) publicKey = true

variable {lib : TokenLibrary} {signer : TokenSigner} {options : ParserOptions}
variable {keyFunc : TokenHeader → Except GoError String}
variable {privateKey keyID publicKey : String} {claims found : Claims}

theorem splitToken_signedString
    (hround : ReadsBack lib signer privateKey keyID claims) :
    splitToken (signedString signer privateKey keyID claims) =
      some (signer.encodeHeader "RS256" keyID, signer.encodeClaims claims,
        signer.encodeSegment (signature signer privateKey keyID claims)) :=
  splitToken_append hround.dotlessHeader hround.dotlessClaims
    hround.dotlessSignature

/-- A parse of a signed token finds the claims that were signed. -/
theorem claims_of_signed {alg key : String} {kid : Option String}
    (hround : ReadsBack lib signer privateKey keyID claims)
    (hsigned : Signed lib options keyFunc
      (signedString signer privateKey keyID claims) alg kid key found) :
    found = claims := by
  obtain ⟨headerPart, claimsPart, signaturePart, bytes, hsplit, -, hclaims,
    -⟩ := hsigned.segments
  rw [splitToken_signedString hround] at hsplit
  cases hsplit
  rw [hround.decodedClaims] at hclaims
  exact (Option.some.inj hclaims).symm

/-- A token is accepted under the public key of its signer. -/
theorem signed_signedString
    (hround : ReadsBack lib signer privateKey keyID claims)
    (hverifies : Verifies lib signer privateKey keyID publicKey claims)
    (hmethod : "RS256" ∈ options.validMethods)
    (hkey : keyFunc ⟨"RS256", some keyID⟩ = .ok publicKey) :
    Signed lib options keyFunc (signedString signer privateKey keyID claims)
      "RS256" (some keyID) publicKey claims where
  methods := ⟨hverifies.method, hmethod⟩
  lookup := hkey
  segments := ⟨_, _, _, _, splitToken_signedString hround, hround.decodedHeader,
    hround.decodedClaims, hround.decodedSignature, hverifies.verify⟩

end MessagingPlatform.Signer
