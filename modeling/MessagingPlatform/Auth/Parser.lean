import MessagingPlatform.Auth.Primitives

/-!
# The JWT parser

golang-jwt's `ParseWithClaims` (v5.3.1) and its claim validator, over the
decoders of the three segments and the signature check.  The signature segment
is decoded with the other two, before the method is compared with the valid
ones.  The signature is checked before the claims, and the failures of the
claims are joined.  `iat` is not looked at: the validator of the service does
not set `WithIssuedAt`.
-/

namespace MessagingPlatform.Parser

open Instants
open Errors
open Primitives

/-- The segment decoders of the library, the signing methods it knows and the
check of a signature over a text. -/
structure TokenLibrary where
  decodeHeader : String → Option (Option String × Option String)
  decodeClaims : String → Option Claims
  decodeSegment : String → Option String
  hasSigningMethod : String → Bool
  verify : String → String → String → String → Bool

section Segments

/-- `strings.Cut` at a dot. -/
def cut : List Char → Option (List Char × List Char)
  | [] => none
  | char :: rest =>
      if char = '.' then some ([], rest)
      else (cut rest).map fun (before, after) => (char :: before, after)

def splitToken (tokenString : String) : Option (String × String × String) :=
  (cut tokenString.toList).bind fun (header, remain) =>
    (cut remain).bind fun (claims, signature) =>
      match cut signature with
      | some _ => none
      | none =>
          some (String.ofList header, String.ofList claims,
            String.ofList signature)

theorem cut_append {before : List Char} (hdot : '.' ∉ before)
    (after : List Char) :
    cut (before ++ '.' :: after) = some (before, after) := by
  induction before with
  | nil => rfl
  | cons char rest ih =>
      rw [List.mem_cons, not_or] at hdot
      rw [List.cons_append, cut, if_neg (Ne.symm hdot.1), ih hdot.2]
      rfl

theorem cut_eq_none {text : List Char} (hdot : '.' ∉ text) :
    cut text = none := by
  induction text with
  | nil => rfl
  | cons char rest ih =>
      rw [List.mem_cons, not_or] at hdot
      rw [cut, if_neg (Ne.symm hdot.1), ih hdot.2]
      rfl

/-- A token is split into the segments that it was joined of. -/
theorem splitToken_append {header claims signature : String}
    (hheader : '.' ∉ header.toList) (hclaims : '.' ∉ claims.toList)
    (hsignature : '.' ∉ signature.toList) :
    splitToken (header ++ "." ++ claims ++ "." ++ signature) =
      some (header, claims, signature) := by
  have hdot : ".".toList = ['.'] := by decide
  have hlist : (header ++ "." ++ claims ++ "." ++ signature).toList =
      header.toList ++ '.' :: (claims.toList ++ '.' :: signature.toList) := by
    simp [String.toList_append, hdot]
  unfold splitToken
  simp [hlist, cut_append hheader, cut_append hclaims, cut_eq_none hsignature]

end Segments

section Claims

/-- The zero value of the claims. -/
def zeroClaims : Claims :=
  { subject := "", issuer := "", audience := [], issuedAt := none,
    expiresAt := none, notBefore := none, id := "", sessionID := "",
    scope := "" }

def verifyExpiresAt (options : ParserOptions) (now : Time) (claims : Claims) :
    List TokenError :=
  match claims.expiresAt with
  | none => if options.expirationRequired then [.requiredClaimMissing] else []
  | some expiresAt => if now < expiresAt * second then [] else [.expired]

def verifyNotBefore (now : Time) (claims : Claims) : List TokenError :=
  match claims.notBefore with
  | none => []
  | some notBefore =>
      if now < notBefore * second then [.notValidYet] else []

/-- A single empty string counts as no audience. -/
def verifyAudience (options : ParserOptions) (claims : Claims) :
    List TokenError :=
  if claims.audience = [] ∨ claims.audience = [""] then
    [.requiredClaimMissing]
  else if claims.audience.contains options.audience then []
  else [.invalidAudience]

def verifyIssuer (options : ParserOptions) (claims : Claims) :
    List TokenError :=
  if options.issuer = "" then []
  else if claims.issuer = "" then [.requiredClaimMissing]
  else if claims.issuer = options.issuer then []
  else [.invalidIssuer]

/-- `Validator.Validate`: the errors that it joins. -/
def validate (options : ParserOptions) (now : Time) (claims : Claims) :
    List TokenError :=
  verifyExpiresAt options now claims ++ (verifyNotBefore now claims ++
    (verifyAudience options claims ++ verifyIssuer options claims))

end Claims

section Parsing

variable (lib : TokenLibrary) (options : ParserOptions)
variable (keyFunc : TokenHeader → Except GoError String)

/-- The parse up to the claims: what is returned early, or the claims of a
token whose signature is valid. -/
def verifySignature (tokenString : String) : Except ParsedToken Claims :=
  match splitToken tokenString with
  | none => .error ⟨zeroClaims, false, [.malformed]⟩
  | some (headerPart, claimsPart, signaturePart) =>
      match lib.decodeHeader headerPart with
      | none => .error ⟨zeroClaims, true, [.malformed]⟩
      | some (method, kid) =>
          match lib.decodeClaims claimsPart with
          | none => .error ⟨zeroClaims, true, [.malformed]⟩
          | some claims =>
              match method with
              | none => .error ⟨claims, true, [.unverifiable]⟩
              | some alg =>
                  if !lib.hasSigningMethod alg then
                    .error ⟨claims, true, [.unverifiable]⟩
                  else
                    match lib.decodeSegment signaturePart with
                    | none => .error ⟨claims, true, [.malformed]⟩
                    | some signature =>
                        if !options.validMethods.contains alg then
                          .error ⟨claims, true, [.signatureInvalid]⟩
                        else
                          match keyFunc ⟨alg, kid⟩ with
                          | .error _ =>
                              .error ⟨claims, true, [.unverifiable]⟩
                          | .ok key =>
                              if lib.verify alg
                                  (headerPart ++ "." ++ claimsPart) signature
                                  key then
                                .ok claims
                              else .error ⟨claims, true, [.signatureInvalid]⟩

def parseWithClaims (now : Time) (tokenString : String) : ParsedToken :=
  match verifySignature lib options keyFunc tokenString with
  | .error parsed => parsed
  | .ok claims => ⟨claims, true, validate options now claims⟩

end Parsing

/-- A well-formed token with a valid signature. -/
structure Signed (lib : TokenLibrary) (options : ParserOptions)
    (keyFunc : TokenHeader → Except GoError String) (tokenString : String)
    (alg : String) (kid : Option String) (key : String) (claims : Claims) :
    Prop where
  methods : lib.hasSigningMethod alg = true ∧ alg ∈ options.validMethods
  lookup : keyFunc ⟨alg, kid⟩ = .ok key
  segments : ∃ headerPart claimsPart signaturePart signature,
    splitToken tokenString = some (headerPart, claimsPart, signaturePart) ∧
    lib.decodeHeader headerPart = some (some alg, kid) ∧
    lib.decodeClaims claimsPart = some claims ∧
    lib.decodeSegment signaturePart = some signature ∧
    lib.verify alg (headerPart ++ "." ++ claimsPart) signature key = true

variable {lib : TokenLibrary} {options : ParserOptions}
variable {keyFunc : TokenHeader → Except GoError String}
variable {tokenString : String} {now : Time} {claims : Claims}

/-- The early returns report one error each, none of them an expiry. -/
theorem errors_of_verifySignature {parsed : ParsedToken}
    (hfailed : verifySignature lib options keyFunc tokenString =
      .error parsed) :
    parsed.errors = [.malformed] ∨ parsed.errors = [.unverifiable] ∨
      parsed.errors = [.signatureInvalid] := by
  unfold verifySignature at hfailed
  repeat' split at hfailed
  all_goals cases hfailed
  all_goals simp

theorem verifySignature_eq_ok_iff :
    verifySignature lib options keyFunc tokenString = .ok claims ↔
      ∃ alg kid key,
        Signed lib options keyFunc tokenString alg kid key claims := by
  constructor
  · intro hok
    unfold verifySignature at hok
    split at hok
    · cases hok
    next headerPart claimsPart signaturePart hsplit =>
    split at hok
    · cases hok
    next method kid hheader =>
    split at hok
    · cases hok
    next found hclaims =>
    split at hok
    · cases hok
    next alg =>
    split at hok
    · cases hok
    next hmethod =>
    split at hok
    · cases hok
    next signature hsignature =>
    split at hok
    · cases hok
    next hvalid =>
    split at hok
    · cases hok
    next key hkey =>
    split at hok
    · next hverify =>
        cases hok
        rw [Bool.not_eq_true, Bool.not_eq_false'] at hmethod hvalid
        exact ⟨alg, kid, key, ⟨hmethod, List.contains_iff_mem.mp hvalid⟩,
          hkey, headerPart, claimsPart, signaturePart, signature, hsplit,
          hheader, hclaims, hsignature, hverify⟩
    · cases hok
  · rintro ⟨alg, kid, key, ⟨hmethod, hvalid⟩, hkey, headerPart, claimsPart,
      signaturePart, signature, hsplit, hheader, hclaims, hsignature,
      hverify⟩
    unfold verifySignature
    simp [hsplit, hheader, hclaims, hmethod, hvalid, hsignature, hkey,
      hverify]

end MessagingPlatform.Parser
