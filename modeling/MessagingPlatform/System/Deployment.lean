import MessagingPlatform.System.Service

/-!
# A deployment

One instance of the parameters of the service, small enough to compute runs
with.  The digests are permutations of texts that agree with SHA-256 and with
HMAC-SHA-256 under the development pepper on the texts of these runs, so they
never collide; an access token is the text of its subject, session and
identifier, and the parser knows the claims of the tokens it is given.
Schedules are written as the arrival of a call followed by the choices of the
environment for it.
-/

namespace MessagingPlatform.Deployment

open Interleaving
open Instants
open Errors
open Records
open Primitives
open Tables
open Operations
open Service

section Parameters

/-- Insertion sort by a strict order. -/
def sortSessions (less : SessionRecord → SessionRecord → Bool)
    (sessions : List SessionRecord) : List SessionRecord :=
  sessions.insertionSort fun left right => less right left = false

theorem sortSessions_sorted (less : SessionRecord → SessionRecord → Bool)
    (sessions : List SessionRecord)
    (hasymm : ∀ left right, less left right = true → less right left = false)
    (htrans : ∀ left middle right, less left middle = false →
      less middle right = false → less left right = false) :
    (sortSessions less sessions).Pairwise fun left right =>
      less right left = false := by
  have htotal : Std.Total fun left right => less right left = false := by
    constructor
    intro left right
    cases hless : less right left with
    | false => exact Or.inl rfl
    | true => exact Or.inr (hasymm right left hless)
  have htransitive : IsTrans SessionRecord fun left right =>
      less right left = false := by
    constructor
    intro left middle right hfirst hsecond
    exact htrans right middle left hsecond hfirst
  exact List.pairwise_insertionSort _ sessions

/-- The permutation that exchanges each text of a table with its digest. -/
def exchange : List (String × String) → Equiv.Perm String
  | [] => Equiv.refl String
  | (text, digest) :: rest => (Equiv.swap text digest).trans (exchange rest)

def phoneDigest : String :=
  "40d3f4e02db27d66cf4cfdda506c2c945f115a7955cc8491dda98ce5beabcda0"

/-- SHA-256, hex. -/
def digests : List (String × String) :=
  [("+14155550100", phoneDigest),
    ("pU3KGCUwux1tEyze1iN7LtkeP3IfyxlxF0SU1kk8nVw",
      "28099cffa3693ff24ff0e71c00b1001592dfe632709595a4e21e8bf5134f3899"),
    ("NGC-MSAeaf7aoO7ouZl_XHwpmf2v5ZMlPNZUr0361xQ",
      "faff75b27302b178a85210249d443ddeea8abc8d725fbd1ac7d0175bc5594b43"),
    ("J6Cus_7pIy-K8iEfnuSRxbEL7LVWO_web5NCfsvI_ik",
      "ba9432814c4d25626f847d5eecec249b66fd02c10dffd3a39d0f5b59499091c8")]

/-- HMAC-SHA-256, hex, under the development pepper. -/
def macs : List (String × String) :=
  [("123456" ++ phoneDigest ++ "2023-11-14T22:18:20Z",
      "21b29b7b419b291c614aa7fadb3bcd1bcf964e0b95eaac3083c8bfb03b73f48b"),
    ("654321" ++ phoneDigest ++ "2023-11-14T22:18:20Z",
      "6beb6bc87dd908c505ef0ffe923c63e17d24876101934a198d8e7a684c15f5f1"),
    ("000001" ++ phoneDigest ++ "2023-11-14T22:18:20Z",
      "54d890aeebf935677eea1ca8289d989548c071bd851735b66114cf4d7145141d"),
    ("000002" ++ phoneDigest ++ "2023-11-14T22:18:20Z",
      "b294fee5242f1049882686e1eede7beaf086c22b2cc1a005542058343288c7c5"),
    ("000003" ++ phoneDigest ++ "2023-11-14T22:18:20Z",
      "a84920faa6729c33018343c95fa4b58f26bbf363f21054167be8dd037d92e985"),
    ("000004" ++ phoneDigest ++ "2023-11-14T22:18:20Z",
      "eb892d508351d07f36d07900a9262fa9bc8a4744ecd2c12603f158b121ef8372"),
    ("000005" ++ phoneDigest ++ "2023-11-14T22:18:20Z",
      "9c10b326858f7e71aeac916de9024829b773c4099e26edf438373b2316b89250"),
    ("123456" ++ phoneDigest ++ "2023-11-14T22:30:00Z",
      "4db2f7e8b628846dd8897417c0d9087b40c9511b9e8bfe8045e5f2caa8c1df2f"),
    ("000001" ++ phoneDigest ++ "2023-11-14T22:30:00Z",
      "b18cdcb008de6f94f4d0c1317277813a83c8505e36d10aa4f9b10b88edabd238"),
    ("000002" ++ phoneDigest ++ "2023-11-14T22:30:00Z",
      "e91bd9e37bd2cbd62c07294ff4860fb2b314cbc19d43f394904091d95b5d1ca1"),
    ("000003" ++ phoneDigest ++ "2023-11-14T22:30:00Z",
      "92bfd78bf9dca9275500cec1990c6001be498fccce492d4873e250eb56e36957"),
    ("000004" ++ phoneDigest ++ "2023-11-14T22:30:00Z",
      "34cd91e256b871b5b4c895e8bd2ebacab547eea9c625c58709afbd589216aa42"),
    ("000005" ++ phoneDigest ++ "2023-11-14T22:30:00Z",
      "38e7414d18f9bc46cac80bf6143263f6ef1b6a02645fa77d792e20abfa1ea233"),
    ("000006" ++ phoneDigest ++ "2023-11-14T22:30:00Z",
      "ac81e9b77e65735189b5336415bf3d2a73e771bd0ba7a2ffa327d72dea0ef495"),
    ("654321" ++ phoneDigest ++ "2023-11-14T22:33:15Z",
      "1522a92e01eccb3657769d10e9d4ce00fec4a842b30345dbd5b1fe7d716d2a05"),
    ("654321" ++ phoneDigest ++ "2023-11-14T22:38:20Z",
      "6cfea7e49d7919ddb0416531dd48a0a7acdc50335789d3fccbedb9ab15381a20")]

/-- The text of an access token. -/
def tokenText (claims : Claims) : String :=
  claims.subject ++ "." ++ claims.sessionID ++ "." ++ claims.id

def noClaims : Claims :=
  { subject := "", issuer := "", audience := [], issuedAt := none,
    expiresAt := none, notBefore := none, id := "", sessionID := "",
    scope := "" }

/-- The parser: unknown texts are malformed, known tokens expire. -/
def parseKnown (known : List Claims) (now : Time) (tokenString : String) :
    ParsedToken :=
  match known.find? fun claims => tokenText claims == tokenString with
  | none => ⟨noClaims, false, [.malformed]⟩
  | some claims =>
      match claims.expiresAt with
      | none => ⟨claims, true, [.requiredClaimMissing]⟩
      | some expiry =>
          ⟨claims, true, if now < expiry * second then [] else [.expired]⟩

def deployment (known : List Claims) : AuthServiceConfig where
  sha256Hex := exchange digests
  hmacSHA256Hex := fun _ => exchange macs
  parseWithClaims := fun _ _ => parseKnown known
  signedString := fun _ _ claims => tokenText claims
  sortSlice := sortSessions
  sortSlice_perm := fun _ sessions => List.perm_insertionSort _ sessions
  sortSlice_sorted := sortSessions_sorted
  pepper := "local-dev-pepper-32-bytes-ok!!"
  issuer := "messaging-platform"
  audience := "messaging-api"
  signingKey := "dev-private-key"
  signingKeyID := "dev-key-001"
  publicKey := fun keyID => .ok keyID

/-- The claims of a token minted at `now`. -/
def mintedClaims (userID sessionID jti : String) (now : Time) : Claims :=
  { subject := userID, issuer := "messaging-platform",
    audience := ["messaging-api"], issuedAt := some (unix now),
    expiresAt := some (unix (now + accessTokenLifetime)), notBefore := none,
    id := jti, sessionID := sessionID, scope := "messaging" }

end Parameters

section Schedules

/-- The environment's choices for the next requests of a call. -/
def resume (id : ℕ) (choices : List Choice) : List Label :=
  choices.map (.exec id)

/-- A call and the choices for its first requests. -/
def serve (id : ℕ) (req : Request) (choices : List Choice) : List Label :=
  .start id req :: resume id choices

/-- A code request that stores its code. -/
def issuing (number : ℕ) : List Choice :=
  [.ok, .ok, .number number, .ok, .ok, .ok, .ok]

/-- A verification up to the acceptance of its code. -/
def accepting : List Choice := [.ok, .ok, .ok, .ok, .ok]

/-- The mint of an access token. -/
def minting (jti : String) : List Choice := [.ok, .ok, .text jti, .ok]

/-- A registration after the acceptance, up to its transaction. -/
def registering (userID sessionID refreshToken : String) : List Choice :=
  [.order [], .text userID, .text sessionID, .ok, .text refreshToken, .ok]

/-- A login after the acceptance, up to the list of the sessions. -/
def finding (userID : String) (sessionIDs : List String) : List Choice :=
  [.order [userID], .ok, .ok, .ok, .order sessionIDs]

/-- The eviction of some sessions. -/
def evicting (count : ℕ) : List Choice := List.replicate (2 * count) .ok

/-- A login after its evictions, up to its transaction. -/
def loggingIn (sessionID refreshToken : String) : List Choice :=
  [.text sessionID, .ok, .text refreshToken, .ok]

/-- A refresh up to the point where it writes. -/
def rotating (refreshToken : String) : List Choice :=
  [.ok, .ok, .ok, .text refreshToken, .ok]

/-- 14 November 2023, 22:13:20 UTC. -/
def evening : Time := 1700000000 * second

def phone : String := "+14155550100"

def user : String := "11111111-1111-4111-8111-111111111111"

def session : String := "22222222-2222-4222-8222-222222222222"

def sessionB : String := "66666666-6666-4666-8666-666666666666"

def sessionC : String := "77777777-7777-4777-8777-777777777777"

def refreshA : String := "pU3KGCUwux1tEyze1iN7LtkeP3IfyxlxF0SU1kk8nVw"

def refreshB : String := "NGC-MSAeaf7aoO7ouZl_XHwpmf2v5ZMlPNZUr0361xQ"

def refreshC : String := "J6Cus_7pIy-K8iEfnuSRxbEL7LVWO_web5NCfsvI_ik"

/-- A phone registers with a code it has requested. -/
def registration : List Label :=
  serve 0 (.requestOTP phone "203.0.113.7") (issuing 123456) ++
    serve 1 (.verifyOTP phone "123456" "device-a")
      (accepting ++ registering user session refreshA ++
        minting "33333333-3333-4333-8333-333333333333")

/-- The claims of the access token of that registration. -/
def firstClaims : Claims :=
  mintedClaims user session "33333333-3333-4333-8333-333333333333" evening

end Schedules

end MessagingPlatform.Deployment
