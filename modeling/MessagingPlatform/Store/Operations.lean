import MessagingPlatform.Core.Program
import MessagingPlatform.Store.Tables

/-!
# Atomic operations of the environment

Every request the service makes of its environment and its effect on the
store.  DynamoDB evaluates conditions against the present item, an update of a
missing item creates it from the attributes it sets, and a transaction applies
all of its writes or none.  An operation that fails changes nothing.

Clock readings, random values, the comparison of a code with its MAC and the
minting of tokens are operations too, so that they show in histories.
-/

namespace MessagingPlatform.Operations

open Instants
open Errors
open Records
open Identifiers
open Primitives
open Tables

/-- The errors of the DynamoDB client that the adapters tell apart. -/
inductive DynamoError where
  | conditionalCheckFailed
  | transactionCanceled (reasons : List String)
  | failure (text : String)
  deriving DecidableEq, Repr

def DynamoError.toGoError : DynamoError → GoError
  | .conditionalCheckFailed => .plain "ConditionalCheckFailedException"
  | .transactionCanceled _ => .plain "TransactionCanceledException"
  | .failure text => .plain text

/-- The writes of the two transactions, each with its condition. -/
inductive TransactWriteItem where
  | otpVerifyUpdate (phoneHash : String) (expiresAt : TimeText)
      (otpMAC : String)
  | userPut (userID : String) (item : UserItem)
  | sessionPut (sessionID : String) (item : SessionItem)
  deriving DecidableEq, Repr

/-- The condition expression of a write. -/
def TransactWriteItem.holds (store : Store) : TransactWriteItem → Bool
  | .otpVerifyUpdate phoneHash expiresAt otpMAC =>
      match store.otpRequests.lookup phoneHash with
      | none => false
      | some item =>
          item.status == .pending && item.expiresAt == expiresAt &&
            item.otpMAC == otpMAC
  | .userPut userID _ => (store.users.lookup userID).isNone
  | .sessionPut sessionID _ => (store.sessions.lookup sessionID).isNone

def TransactWriteItem.write (store : Store) : TransactWriteItem → Store
  | .otpVerifyUpdate phoneHash _ _ =>
      match store.otpRequests.lookup phoneHash with
      | none => store
      | some item =>
          { store with
            otpRequests := store.otpRequests.insert phoneHash
              { item with status := .verified } }
  | .userPut userID item =>
      { store with users := store.users.insert userID item }
  | .sessionPut sessionID item =>
      { store with sessions := store.sessions.insert sessionID item }

def conditionalCheckFailedReason : String := "ConditionalCheckFailed"

/-- The reason codes of a transaction that its conditions cancel. -/
def cancellationReasons (store : Store) (items : List TransactWriteItem) :
    List String :=
  items.map fun item =>
    if item.holds store then "" else conditionalCheckFailedReason

inductive Op where
  | clockNow
  | uuidNewString
  | randInt (bound : ℕ)
  | randToken
  | ctxErr
  | redisEval (key : RedisKey) (windowSeconds : ℕ)
  | redisExists (key : RedisKey)
  | redisSet (key : RedisKey) (ttlSeconds : ℕ)
  | otpPutItem (phoneHash : String) (item : OTPItem) (now : TimeText)
  | otpGetItem (phoneHash : String)
  | otpUpdateItem (phoneHash : String)
  | verifyOTPMAC (otpCandidate phoneHash : String) (expiresAt : TimeText)
      (storedMAC : String)
  | usersQuery (phoneNumber : String)
  | usersGetItem (userID : String)
  | sessionsGetItem (sessionID : String)
  | sessionsQuery (userID : String) (now : TimeText)
  | sessionsUpdateItem (sessionID : String) (update : SessionUpdate)
  | sessionsDeleteItem (sessionID : String)
  | transactWriteItems (items : List TransactWriteItem)
  | signingKey
  | signedString (key keyID : String) (claims : Claims)
  | sendOTP (phone otp : String)
  deriving DecidableEq

/-- The session that an operation rotates, and how. -/
def Op.rotation : Op → Option (String × SessionUpdate)
  | .sessionsUpdateItem sessionID update => some (sessionID, update)
  | _ => none

/-- The session that an operation reads. -/
def Op.sessionRead : Op → Option String
  | .sessionsGetItem sessionID => some sessionID
  | _ => none

/-- The user whose sessions an operation lists. -/
def Op.sessionsListed : Op → Option String
  | .sessionsQuery userID _ => some userID
  | _ => none

/-- The response of each operation. -/
abbrev Op.Res : Op → Type
  | .clockNow => Time
  | .uuidNewString => String
  | .randInt _ => Except GoError ℕ
  | .randToken => Except GoError String
  | .ctxErr => Except GoError Unit
  | .redisEval _ _ => Except GoError ℕ
  | .redisExists _ => Except GoError Bool
  | .redisSet _ _ => Except GoError Unit
  | .otpPutItem _ _ _ => Except DynamoError Unit
  | .otpGetItem _ => Except DynamoError (Option OTPItem)
  | .otpUpdateItem _ => Except DynamoError Unit
  | .verifyOTPMAC _ _ _ _ => Bool
  | .usersQuery _ => Except DynamoError (List String)
  | .usersGetItem _ => Except DynamoError (Option UserItem)
  | .sessionsGetItem _ => Except DynamoError (Option SessionItem)
  | .sessionsQuery _ _ => Except DynamoError (List (String × SessionItem))
  | .sessionsUpdateItem _ _ => Except DynamoError Unit
  | .sessionsDeleteItem _ => Except DynamoError Unit
  | .transactWriteItems _ => Except DynamoError Unit
  | .signingKey => Except GoError (String × String)
  | .signedString _ _ _ => Except GoError String
  | .sendOTP _ _ => Except GoError Unit

abbrev Entry := Program.Entry Op Op.Res
abbrev History := Program.History Op Op.Res

/-- What the environment decides: whether an operation fails, which random
value it returns, in which order an index lists its items. -/
inductive Choice where
  | ok
  | fault (text : String)
  | cancel (reasons : List String)
  | number (value : ℕ)
  | text (value : String)
  | order (keys : List String)

/-- The response of an operation that fails, for those that can. -/
def Op.failure : (op : Op) → String → Option op.Res
  | .clockNow, _ => none
  | .uuidNewString, _ => none
  | .randInt _, text => some (.error (.plain text))
  | .randToken, text => some (.error (.plain text))
  | .ctxErr, text => some (.error (.plain text))
  | .redisEval _ _, text => some (.error (.plain text))
  | .redisExists _, text => some (.error (.plain text))
  | .redisSet _ _, text => some (.error (.plain text))
  | .otpPutItem _ _ _, text => some (.error (.failure text))
  | .otpGetItem _, text => some (.error (.failure text))
  | .otpUpdateItem _, text => some (.error (.failure text))
  | .verifyOTPMAC _ _ _ _, _ => none
  | .usersQuery _, text => some (.error (.failure text))
  | .usersGetItem _, text => some (.error (.failure text))
  | .sessionsGetItem _, text => some (.error (.failure text))
  | .sessionsQuery _ _, text => some (.error (.failure text))
  | .sessionsUpdateItem _ _, text => some (.error (.failure text))
  | .sessionsDeleteItem _, text => some (.error (.failure text))
  | .transactWriteItems _, text => some (.error (.failure text))
  | .signingKey, text => some (.error (.plain text))
  | .signedString _ _ _, text => some (.error (.plain text))
  | .sendOTP _ _, text => some (.error (.plain text))

/-- A transaction canceled for whatever reasons; a failed condition is
reported only of an item whose condition fails. -/
def Op.cancellation (store : Store) (reasons : List String) :
    (op : Op) → Option op.Res
  | .transactWriteItems items =>
      if reasons.length = items.length ∧
          ∀ pair ∈ reasons.zip items,
            pair.1 = conditionalCheckFailedReason → pair.2.holds store = false
      then some (.error (.transactionCanceled reasons))
      else none
  | _ => none

section Effects

/-- The condition of `CreateOTP`: `attribute_not_exists(phone_hash) OR
status = "verified" OR expires_at < now`. -/
def otpReplaceable (now : TimeText) : Option OTPItem → Bool
  | none => true
  | some item => item.status == .verified || item.expiresAt.before now

/-- An update that sets the rotated attributes.  Of a missing item nothing
else exists afterwards. -/
def updatedSession (update : SessionUpdate) (item : Option SessionItem) :
    SessionItem where
  userID := item.bind (·.userID)
  deviceID := item.bind (·.deviceID)
  createdAt := item.bind (·.createdAt)
  refreshTokenHash := update.refreshTokenHash
  tokenGeneration := update.tokenGeneration
  prevTokenHash := update.prevTokenHash
  expiresAt := update.expiresAt
  ttl := update.ttl

end Effects

/-- The effect of an operation that does not fail. -/
def effect (cfg : AuthServiceConfig) :
    (op : Op) → Choice → Store → Option (op.Res × Store)
  | .clockNow, _, store => some (store.clock, store)
  | .uuidNewString, .text value, store =>
      if isUUIDText value ∧ value ∉ store.issued then
        some (value, { store with issued := value :: store.issued })
      else none
  | .uuidNewString, _, _ => none
  | .randInt bound, .number value, store =>
      if value < bound then some (.ok value, store) else none
  | .randInt _, _, _ => none
  | .randToken, .text value, store =>
      if value ∉ store.issued then
        some (.ok value, { store with issued := value :: store.issued })
      else none
  | .randToken, _, _ => none
  | .ctxErr, _, store => some (.ok (), store)
  | .redisEval key windowSeconds, _, store =>
      let counted := store.incrementCounter key windowSeconds
      some (.ok counted.1, counted.2)
  | .redisExists key, _, store =>
      some (.ok (store.liveEntry key).isSome, store)
  | .redisSet key ttlSeconds, _, store =>
      some (.ok (), store.setKey key ttlSeconds)
  | .otpPutItem phoneHash item now, _, store =>
      if otpReplaceable now (store.otpRequests.lookup phoneHash) then
        some (.ok (), { store with
          otpRequests := store.otpRequests.insert phoneHash item })
      else some (.error .conditionalCheckFailed, store)
  | .otpGetItem phoneHash, _, store =>
      some (.ok (store.otpRequests.lookup phoneHash), store)
  | .otpUpdateItem phoneHash, _, store =>
      match store.otpRequests.lookup phoneHash with
      | none => some (.error (.failure "ValidationException"), store)
      | some item =>
          some (.ok (), { store with
            otpRequests := store.otpRequests.insert phoneHash
              { item with attemptCount := item.attemptCount + 1 } })
  | .verifyOTPMAC otpCandidate phoneHash expiresAt storedMAC, _, store =>
      some (verifyOTPMAC cfg otpCandidate phoneHash expiresAt.render storedMAC,
        store)
  | .usersQuery phoneNumber, .order keys, store =>
      if keys.Perm (store.phoneKeys phoneNumber) then some (.ok keys, store)
      else none
  | .usersQuery _, _, _ => none
  | .usersGetItem userID, _, store =>
      some (.ok (store.users.lookup userID), store)
  | .sessionsGetItem sessionID, _, store =>
      some (.ok (store.sessions.lookup sessionID), store)
  | .sessionsQuery userID now, .order keys, store =>
      if keys.Perm (store.activeKeys userID now) then
        some (.ok (store.indexedSessions keys), store)
      else none
  | .sessionsQuery _ _, _, _ => none
  | .sessionsUpdateItem sessionID update, _, store =>
      some (.ok (), { store with
        sessions := store.sessions.insert sessionID
          (updatedSession update (store.sessions.lookup sessionID)) })
  | .sessionsDeleteItem sessionID, _, store =>
      some (.ok (), { store with
        sessions := store.sessions.erase sessionID })
  | .transactWriteItems items, _, store =>
      if items.all (·.holds store) then
        some (.ok (), items.foldl TransactWriteItem.write store)
      else
        some (.error (.transactionCanceled (cancellationReasons store items)),
          store)
  | .signingKey, _, store =>
      some (.ok (cfg.signingKey, cfg.signingKeyID), store)
  | .signedString key keyID claims, _, store =>
      some (.ok (cfg.signedString key keyID claims), store)
  | .sendOTP _ _, _, store => some (.ok (), store)

/-- The effect of an operation under a choice of the environment. -/
def perform (cfg : AuthServiceConfig) (op : Op) (choice : Choice)
    (store : Store) : Option (op.Res × Store) :=
  match choice with
  | .fault text => (op.failure text).map fun response => (response, store)
  | .cancel reasons =>
      (op.cancellation store reasons).map fun response => (response, store)
  | choice => effect cfg op choice store

/-- A choice under which an operation does not fail of itself. -/
def Choice.unfaulted : Choice → Prop
  | .fault _ => False
  | .cancel _ => False
  | _ => True

theorem effect_of_unfaulted {cfg : AuthServiceConfig} {op : Op}
    {choice : Choice} {store : Store} {outcome : op.Res × Store}
    (hunfaulted : choice.unfaulted)
    (hperform : perform cfg op choice store = some outcome) :
    effect cfg op choice store = some outcome := by
  unfold perform at hperform
  split at hperform
  · exact hunfaulted.elim
  · exact hunfaulted.elim
  · exact hperform

/-- Changes that no call makes: time passes, and index replicas catch up.  The
items that DynamoDB removes some time after their `ttl` stay in the tables. -/
inductive Env where
  | tick (now : Time)
  | replicateUser (userID : String)
  | replicateSession (sessionID : String)

def advance : Env → Store → Option Store
  | .tick now, store =>
      if store.clock ≤ now then some { store with clock := now } else none
  | .replicateUser userID, store =>
      some { store with
        phoneNumberIndex :=
          match store.users.lookup userID with
          | none => store.phoneNumberIndex.erase userID
          | some item =>
              store.phoneNumberIndex.insert userID item.phoneNumber }
  | .replicateSession sessionID, store =>
      some { store with
        userSessionsIndex :=
          match store.sessions.lookup sessionID with
          | none => store.userSessionsIndex.erase sessionID
          | some item =>
              if item.userID.isSome then
                store.userSessionsIndex.insert sessionID item
              else store.userSessionsIndex.erase sessionID }

end MessagingPlatform.Operations
