import MessagingPlatform.Core.Sequential
import MessagingPlatform.Domain.Errors
import MessagingPlatform.Domain.Instants

/-!
# The key store

`AWSKeyStore` of `internal/chatmgmt/adapter/aws_keystore.go`: the signing key
and the cache of public keys, loaded from Secrets Manager and the SSM
parameter store.  A section under the lock is one operation; the fetch from
SSM runs outside the lock and is an operation of its own, so that other calls
come between a fetch and the installation of its result.

The PEM and X.509 decoders are parameters.
-/

namespace MessagingPlatform.AWSKeyStore

open Program
open Interleaving
open Instants
open Errors

section Durations

def minDuration : Duration := -2 ^ 63

def maxDuration : Duration := 2 ^ 63 - 1

/-- `t.Sub(u)`, which saturates at the ends of `time.Duration`. -/
def sub (instant earlier : Time) : Duration :=
  max minDuration (min maxDuration (instant - earlier))

/-- A comparison with a duration does not see the saturation. -/
theorem sub_le_iff {instant earlier : Time} {bound : Duration}
    (hmin : minDuration ≤ bound) (hmax : bound < maxDuration) :
    sub instant earlier ≤ bound ↔ instant - earlier ≤ bound := by
  simp only [sub, max_le_iff, min_le_iff, hmin, true_and, not_le.mpr hmax,
    false_or]

/-- `time.Time{}`, the first of January of the year 1. -/
def zeroTime : Time := -62135596800 * second

end Durations

section Keys

structure PEMBlock where
  blockType : String
  bytes : String

/-- A key that an X.509 decoder returns. -/
inductive ParsedKey where
  | rsa (key : String)
  | other (typeName : String)

/-- What lies outside the repository. -/
structure KeyConfig where
  pemDecode : String → Option PEMBlock
  parsePKCS1PrivateKey : String → Except GoError String
  parsePKCS8PrivateKey : String → Except GoError ParsedKey
  parsePKIXPublicKey : String → Except GoError ParsedKey

variable (cfg : KeyConfig)

def parseRSAPrivateKey (pemData : String) : Except GoError String :=
  match cfg.pemDecode pemData with
  | none => .error (.plain "no PEM block found in private key data")
  | some block =>
      if block.blockType = "RSA PRIVATE KEY" then
        match cfg.parsePKCS1PrivateKey block.bytes with
        | .error err =>
            .error (.errorf "parsing PKCS#1 private key: %w" [] [err])
        | .ok key => .ok key
      else
        match cfg.parsePKCS8PrivateKey block.bytes with
        | .error err =>
            .error (.errorf "parsing PKCS#8 private key: %w" [] [err])
        | .ok (.other typeName) =>
            .error (.errorf "PKCS#8 key is not RSA (got %T)" [typeName] [])
        | .ok (.rsa key) => .ok key

def parseRSAPublicKey (pemData : String) : Except GoError String :=
  match cfg.pemDecode pemData with
  | none => .error (.plain "no PEM block found in public key data")
  | some block =>
      match cfg.parsePKIXPublicKey block.bytes with
      | .error err => .error (.errorf "parsing PKIX public key: %w" [] [err])
      | .ok (.other typeName) =>
          .error (.errorf "PKIX key is not RSA (got %T)" [typeName] [])
      | .ok (.rsa key) => .ok key

end Keys

section Environment

def ssmCurrentKeyIDPath : String := "/messaging/jwt/current-key-id"

def ssmPublicKeysPathPrefix : String := "/messaging/jwt/public-keys/"

def smSigningKeyPrefix : String := "jwt/signing-key/"

def defaultCacheTTL : Duration := 300 * second

def defaultKidCooldown : Duration := 30 * second

/-- A parameter of SSM, with the pointers of the client's type. -/
structure Parameter where
  name : Option String
  value : Option String
  deriving DecidableEq, Repr

structure GetParametersByPathOutput where
  parameters : List Parameter
  nextToken : Option String
  deriving DecidableEq, Repr

abbrev KeyMap := AList fun _ : String => String

/-- The fields of the key store behind its lock. -/
structure KeyStore where
  privateKey : Option String
  currentKeyID : String
  publicKeys : KeyMap
  publicKeysLoadedAt : Time
  lastUnknownKidRefresh : Time
  cacheTTL : Duration
  kidCooldown : Duration

/-- The clock, the two services of AWS, and the key store once it is
constructed. -/
structure Store where
  clock : Time
  parameters : List Parameter
  secrets : List (String × Option String)
  keyStore : Option KeyStore

inductive Op where
  | getParameter (name : String)
  | getSecretValue (secretID : String)
  | getParametersByPath (path : String)
  /-- `&AWSKeyStore{...}`, which reads the clock. -/
  | newKeyStore (privateKey currentKeyID : String) (publicKeys : KeyMap)
  /-- The fields under the read lock, beside the clock. -/
  | rlockNow
  /-- The fields under the read lock. -/
  | rlock
  /-- The locked section of `refreshPublicKeys`. -/
  | setPublicKeys (publicKeys : KeyMap)
  /-- The locked section of `refreshPublicKeysWithCooldown`. -/
  | setPublicKeysWithCooldown (publicKeys : KeyMap)

abbrev Op.Res : Op → Type
  | .getParameter _ => Except GoError (Option Parameter)
  | .getSecretValue _ => Except GoError (Option String)
  | .getParametersByPath _ => Except GoError GetParametersByPathOutput
  | .newKeyStore _ _ _ => Unit
  | .rlockNow => Time × KeyStore
  | .rlock => KeyStore
  | .setPublicKeys _ => Unit
  | .setPublicKeysWithCooldown _ => Unit

abbrev Entry := Program.Entry Op Op.Res
abbrev History := Program.History Op Op.Res

/-- What the environment decides: whether a request fails, how many parameters
a page of SSM holds, and how long a locked section takes. -/
inductive Choice where
  | ok
  | fault (text : String)
  | page (count : ℕ) (nextToken : String)
  | delay (nanoseconds : ℕ)
  deriving DecidableEq

/-- Time passes, and the contents of SSM and Secrets Manager change. -/
inductive Env where
  | tick (nanoseconds : ℕ)
  | setParameters (parameters : List Parameter)
  | setSecrets (secrets : List (String × Option String))

def hasLead (lead text : String) : Bool := lead.toList.isPrefixOf text.toList

/-- The parameters that SSM lists under a path. -/
def parametersUnder (path : String) (parameters : List Parameter) :
    List Parameter :=
  parameters.filter fun param => param.name.all (hasLead path)

/-- The public keys are replaced, and the clock is read for their load time. -/
def Store.withPublicKeys (store : Store) (keyStore : KeyStore)
    (publicKeys : KeyMap) : Store :=
  { store with
    keyStore := some
      { keyStore with
        publicKeys := publicKeys
        publicKeysLoadedAt := store.clock } }

/-- The same, and the clock is read once more for the cooldown. -/
def Store.withPublicKeysAndCooldown (store : Store) (keyStore : KeyStore)
    (publicKeys : KeyMap) (nanoseconds : ℕ) : Store :=
  { store with
    clock := store.clock + nanoseconds
    keyStore := some
      { keyStore with
        publicKeys := publicKeys
        publicKeysLoadedAt := store.clock
        lastUnknownKidRefresh := store.clock + nanoseconds } }

def perform : (op : Op) → Choice → Store → Option (op.Res × Store)
  | .getParameter name, .ok, store =>
      match store.parameters.find? fun param => param.name == some name with
      | none => some (.error (.plain "ParameterNotFound"), store)
      | some param => some (.ok (some param), store)
  | .getParameter _, .fault text, store => some (.error (.plain text), store)
  | .getSecretValue secretID, .ok, store =>
      match store.secrets.lookup secretID with
      | none => some (.error (.plain "ResourceNotFoundException"), store)
      | some secret => some (.ok secret, store)
  | .getSecretValue _, .fault text, store => some (.error (.plain text), store)
  | .getParametersByPath path, .ok, store =>
      some (.ok ⟨parametersUnder path store.parameters, none⟩, store)
  | .getParametersByPath path, .page count nextToken, store =>
      some (.ok ⟨(parametersUnder path store.parameters).take count,
        some nextToken⟩, store)
  | .getParametersByPath _, .fault text, store =>
      some (.error (.plain text), store)
  | .newKeyStore privateKey currentKeyID publicKeys, .ok, store =>
      match store.keyStore with
      | some _ => none
      | none =>
          some ((), { store with
            keyStore := some
              { privateKey := some privateKey
                currentKeyID := currentKeyID
                publicKeys := publicKeys
                publicKeysLoadedAt := store.clock
                lastUnknownKidRefresh := zeroTime
                cacheTTL := defaultCacheTTL
                kidCooldown := defaultKidCooldown } })
  | .rlockNow, .ok, store =>
      store.keyStore.map fun keyStore => ((store.clock, keyStore), store)
  | .rlock, .ok, store => store.keyStore.map fun keyStore => (keyStore, store)
  | .setPublicKeys publicKeys, .ok, store =>
      store.keyStore.map fun keyStore =>
        ((), store.withPublicKeys keyStore publicKeys)
  | .setPublicKeysWithCooldown publicKeys, .ok, store =>
      store.keyStore.map fun keyStore =>
        ((), store.withPublicKeysAndCooldown keyStore publicKeys 0)
  | .setPublicKeysWithCooldown publicKeys, .delay nanoseconds, store =>
      store.keyStore.map fun keyStore =>
        ((), store.withPublicKeysAndCooldown keyStore publicKeys nanoseconds)
  | _, _, _ => none

def advance : Env → Store → Option Store
  | .tick nanoseconds, store =>
      some { store with clock := store.clock + nanoseconds }
  | .setParameters parameters, store =>
      some { store with parameters := parameters }
  | .setSecrets secrets, store => some { store with secrets := secrets }

end Environment

section Methods

variable (cfg : KeyConfig)

/-- `strings.TrimPrefix(text, lead)`. -/
def trimPrefix (text lead : String) : String :=
  if hasLead lead text then
    String.ofList (text.toList.drop lead.toList.length)
  else text

/-- The loop over the parameters of an answer. -/
def addPublicKeys : List Parameter → KeyMap → Except GoError KeyMap
  | [], publicKeys => .ok publicKeys
  | ⟨some name, some value⟩ :: rest, publicKeys =>
      let kid := trimPrefix name ssmPublicKeysPathPrefix
      match parseRSAPublicKey cfg value with
      | .error err =>
          .error (.errorf "parsing public key for kid %q: %w" [kid] [err])
      | .ok pk => addPublicKeys rest (publicKeys.insert kid pk)
  | _ :: rest, publicKeys => addPublicKeys rest publicKeys

/-- The keys of an answer of SSM. -/
def keysOf (output : GetParametersByPathOutput) : Except GoError KeyMap :=
  addPublicKeys cfg output.parameters ∅

def loadPublicKeysFromSSM : Prog Op Op.Res (Except GoError KeyMap) := do
  let answer : Except GoError GetParametersByPathOutput ←
    Prog.perform (.getParametersByPath ssmPublicKeysPathPrefix : Op)
  match answer with
  | .error err =>
      return .error (.errorf "GetParametersByPath %q: %w"
        [ssmPublicKeysPathPrefix] [err])
  | .ok output => return keysOf cfg output

def refreshPublicKeys : Prog Op Op.Res (Except GoError Unit) := do
  match ← loadPublicKeysFromSSM cfg with
  | .error err =>
      return .error (.errorf "loading public keys from SSM: %w" [] [err])
  | .ok publicKeys =>
      let _ : Unit ← Prog.perform (.setPublicKeys publicKeys : Op)
      return .ok ()

def refreshPublicKeysWithCooldown : Prog Op Op.Res (Except GoError Unit) := do
  match ← loadPublicKeysFromSSM cfg with
  | .error err =>
      return .error (.errorf "loading public keys from SSM: %w" [] [err])
  | .ok publicKeys =>
      let _ : Unit ← Prog.perform (.setPublicKeysWithCooldown publicKeys : Op)
      return .ok ()

/-- `PublicKey` from the check of the cooldown on. -/
def unknownKid (now : Time) (kid : String) :
    Prog Op Op.Res (Except GoError String) := do
  let checked : KeyStore ← Prog.perform (.rlock : Op)
  if sub now checked.lastUnknownKidRefresh ≤ checked.kidCooldown then
    return .error (.errorf "unknown key ID %q (cooldown active)" [kid] [])
  else
    match ← refreshPublicKeysWithCooldown cfg with
    | .error err =>
        return .error (.errorf "refreshing public keys (unknown kid %q): %w"
          [kid] [err])
    | .ok () =>
        let refreshed : KeyStore ← Prog.perform (.rlock : Op)
        match refreshed.publicKeys.lookup kid with
        | none => return .error (.errorf "unknown key ID %q" [kid] [])
        | some pk => return .ok pk

/-- `now.Sub(ks.publicKeysLoadedAt) > ks.cacheTTL`. -/
def KeyStore.cacheExpired (keyStore : KeyStore) (now : Time) : Bool :=
  decide (sub now keyStore.publicKeysLoadedAt > keyStore.cacheTTL)

def publicKey (kid : String) : Prog Op Op.Res (Except GoError String) := do
  let (now, keyStore) : Time × KeyStore ← Prog.perform (.rlockNow : Op)
  if keyStore.cacheExpired now then
    match ← refreshPublicKeys cfg with
    | .error err =>
        return .error
          (.errorf "refreshing public keys (cache expired): %w" [] [err])
    | .ok () =>
        let refreshed : KeyStore ← Prog.perform (.rlock : Op)
        match refreshed.publicKeys.lookup kid with
        | some pk => return .ok pk
        | none => unknownKid cfg now kid
  else
    match keyStore.publicKeys.lookup kid with
    | some pk => return .ok pk
    | none => unknownKid cfg now kid

def signingKey : Prog Op Op.Res (Except GoError (String × String)) := do
  let keyStore : KeyStore ← Prog.perform (.rlock : Op)
  match keyStore.privateKey with
  | none => return .error (.plain "no signing key available")
  | some privateKey => return .ok (privateKey, keyStore.currentKeyID)

def newAWSKeyStore : Prog Op Op.Res (Except GoError Unit) := do
  let parameter : Except GoError (Option Parameter) ←
    Prog.perform (.getParameter ssmCurrentKeyIDPath : Op)
  match parameter with
  | .error err =>
      return .error (.errorf "fetching current key ID from SSM: %w" [] [err])
  | .ok found =>
      match found.bind Parameter.value with
      | none =>
          return .error (.errorf "SSM parameter %s has no value"
            [ssmCurrentKeyIDPath] [])
      | some currentKeyID =>
          let secretName := smSigningKeyPrefix ++ currentKeyID
          let secret : Except GoError (Option String) ←
            Prog.perform (.getSecretValue secretName : Op)
          match secret with
          | .error err =>
              return .error
                (.errorf "fetching signing key %q from Secrets Manager: %w"
                  [secretName] [err])
          | .ok none =>
              return .error (.errorf "signing key %q has no secret string"
                [secretName] [])
          | .ok (some secretString) =>
              match parseRSAPrivateKey cfg secretString with
              | .error err =>
                  return .error
                    (.errorf "parsing private key for key ID %q: %w"
                      [currentKeyID] [err])
              | .ok privateKey =>
                  match ← loadPublicKeysFromSSM cfg with
                  | .error err =>
                      return .error (.errorf
                        "loading public keys from SSM: %w" [] [err])
                  | .ok publicKeys =>
                      let _ : Unit ← Prog.perform
                        (.newKeyStore privateKey currentKeyID publicKeys : Op)
                      return .ok ()

end Methods

section Machine

inductive Request where
  | newAWSKeyStore
  | signingKey
  | publicKey (kid : String)
  deriving DecidableEq, Repr

inductive Outcome where
  | newAWSKeyStore (outcome : Except GoError Unit)
  | signingKey (outcome : Except GoError (String × String))
  | publicKey (outcome : Except GoError String)

variable (cfg : KeyConfig)

def program : Request → Prog Op Op.Res Outcome
  | .newAWSKeyStore => do
      let outcome ← newAWSKeyStore cfg
      return .newAWSKeyStore outcome
  | .signingKey => do
      let outcome ← signingKey
      return .signingKey outcome
  | .publicKey kid => do
      let outcome ← publicKey cfg kid
      return .publicKey outcome

def machine : Machine Store Op Op.Res Choice Env Request Outcome where
  program := program cfg
  perform := perform
  advance := advance

abbrev Pool := Interleaving.Pool Store Op Op.Res Request Outcome
abbrev Call := Interleaving.Call Op Op.Res Request Outcome
abbrev Event := Interleaving.Event Store Op Op.Res
abbrev Label := Interleaving.Label Choice Env Request

/-- The process before the key store is constructed. -/
def start (clock : Time) (parameters : List Parameter)
    (secrets : List (String × Option String)) : Pool :=
  .initial ⟨clock, parameters, secrets, none⟩

/-- What a `PublicKey` call has returned. -/
def publicKeyOutcome (call : Call) : Option (Except GoError String) :=
  match call.rest with
  | .pure (.publicKey outcome) => some outcome
  | _ => none

theorem rest_of_publicKeyOutcome {call : Call}
    {outcome : Except GoError String}
    (houtcome : publicKeyOutcome call = some outcome) :
    call.rest = .pure (.publicKey outcome) := by
  unfold publicKeyOutcome at houtcome
  split at houtcome
  · next hrest =>
      cases houtcome
      exact hrest
  · cases houtcome

/-- Any step is admitted. -/
def anyStep (_ : Pool) (_ : Label) : Prop := True

instance (pool : Pool) (label : Label) : Decidable (anyStep pool label) :=
  isTrue trivial

end Machine

end MessagingPlatform.AWSKeyStore
