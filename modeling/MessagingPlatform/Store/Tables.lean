import MessagingPlatform.Auth.Primitives
import MessagingPlatform.Domain.Identifiers

/-!
# Tables, indexes and Redis keys

The persistent state: three DynamoDB tables, the replicas behind two global
secondary indexes, and the Redis key space.  An item is the set of attributes
it carries; an attribute that some write leaves out is optional.  Indexes are
replicated asynchronously: an index holds, for each key, what it projects of
some earlier or the present version of the item.

`issued` is the ledger of identifiers and tokens that the random sources have
handed out, by which fresh values are told from used ones.
-/

namespace MessagingPlatform.Tables

open Instants
open Records
open Identifiers

/-- A table: items by the text of their partition key. -/
abbrev Table (Item : Type) := AList fun _ : String => Item

/-- An item of the `otp_requests` table, keyed by `phone_hash`. -/
structure OTPItem where
  otpMAC : String
  otpCiphertext : String
  createdAt : TimeText
  expiresAt : TimeText
  attemptCount : ℕ
  status : OTPStatus
  ttl : ℤ
  deriving DecidableEq, Repr

/-- An item of the `users` table, keyed by `user_id`.  Users carry the profile
attributes, phone reservations carry `owner_id`. -/
structure UserItem where
  phoneNumber : String
  displayName : Option String
  createdAt : Option TimeText
  updatedAt : Option TimeText
  ownerID : Option String
  deriving DecidableEq, Repr

/-- An item of the `sessions` table, keyed by `session_id`.  The first three
attributes are written by the creating put only. -/
structure SessionItem where
  userID : Option String
  deviceID : Option String
  createdAt : Option TimeText
  refreshTokenHash : String
  tokenGeneration : Int64
  prevTokenHash : String
  expiresAt : TimeText
  ttl : ℤ
  deriving DecidableEq, Repr

/-- The Redis keys the service uses. -/
inductive RedisKey where
  | otpReqPhone (phoneHash : String)
  | otpReqIP (clientIP : String)
  | otpVerifyPhone (phoneHash : String)
  | otpLockoutPhone (phoneHash : String)
  | revokedJTI (jti : String)
  deriving DecidableEq, Repr

/-- The fixed part of the text of a key. -/
def RedisKey.family : RedisKey → String
  | .otpReqPhone _ => "otp_req:phone:"
  | .otpReqIP _ => "otp_req:ip:"
  | .otpVerifyPhone _ => "otp_verify:phone:"
  | .otpLockoutPhone _ => "otp_lockout:phone:"
  | .revokedJTI _ => "revoked_jti:"

/-- The part of a key that names its subject. -/
def RedisKey.subject : RedisKey → String
  | .otpReqPhone phoneHash => phoneHash
  | .otpReqIP clientIP => clientIP
  | .otpVerifyPhone phoneHash => phoneHash
  | .otpLockoutPhone phoneHash => phoneHash
  | .revokedJTI jti => jti

/-- The text of a key. -/
def RedisKey.render (key : RedisKey) : String := key.family ++ key.subject

/-- Nine characters tell the families apart. -/
private theorem family_of_take {left right : RedisKey}
    (htake : left.family.toList.take 9 = right.family.toList.take 9) :
    left.family = right.family := by
  cases left <;> cases right <;> simp only [RedisKey.family] at htake ⊢ <;>
    exact absurd htake (by decide)

private theorem take_render (key : RedisKey) :
    key.render.toList.take 9 = key.family.toList.take 9 := by
  rw [RedisKey.render, String.toList_append]
  apply List.take_append_of_le_length
  cases key <;> simp only [RedisKey.family] <;> decide

private theorem eq_of_family_subject {left right : RedisKey}
    (hfamily : left.family = right.family)
    (hsubject : left.subject = right.subject) : left = right := by
  cases left <;> cases right <;>
    simp only [RedisKey.family, RedisKey.subject] at hfamily hsubject <;>
    first
    | exact congrArg _ hsubject
    | exact absurd hfamily (by decide)

/-- Keys of different purpose never share a text, whatever the caller-supplied
part, so keeping Redis by key loses nothing against keeping it by text. -/
theorem RedisKey.render_injective : Function.Injective RedisKey.render := by
  intro left right heq
  have hfamily : left.family = right.family := by
    apply family_of_take
    rw [← take_render, ← take_render, heq]
  have hlists := congrArg String.toList heq
  simp only [RedisKey.render, String.toList_append, hfamily] at hlists
  exact eq_of_family_subject hfamily
    (String.toList_inj.mp (List.append_cancel_left hlists))

/-- A Redis value with its deadline; `none` is a key without expiry. -/
structure RedisEntry where
  value : ℕ
  deadline : Option Time
  deriving DecidableEq, Repr

structure Store where
  clock : Time
  issued : List String
  redis : RedisKey → Option RedisEntry
  otpRequests : Table OTPItem
  users : Table UserItem
  phoneNumberIndex : Table String
  sessions : Table SessionItem
  userSessionsIndex : Table SessionItem

/-- Empty tables at some instant. -/
def Store.empty (clock : Time) : Store where
  clock := clock
  issued := []
  redis := fun _ => none
  otpRequests := ∅
  users := ∅
  phoneNumberIndex := ∅
  sessions := ∅
  userSessionsIndex := ∅

/-- A Redis entry is gone from its deadline on. -/
def RedisEntry.live (entry : RedisEntry) (now : Time) : Bool :=
  match entry.deadline with
  | none => true
  | some deadline => now < deadline

/-- The entry of a key that has not expired. -/
def Store.liveEntry (store : Store) (key : RedisKey) : Option RedisEntry :=
  (store.redis key).filter fun entry => entry.live store.clock

section Access

/-- `rateLimitScript`: INCR, and EXPIRE when the count is 1. -/
def Store.incrementCounter (store : Store) (key : RedisKey)
    (windowSeconds : ℕ) : ℕ × Store :=
  let incremented : RedisEntry :=
    match store.liveEntry key with
    | none => ⟨1, none⟩
    | some entry => { entry with value := entry.value + 1 }
  let entry : RedisEntry :=
    if incremented.value = 1 then
      { incremented with
        deadline := some (store.clock + windowSeconds * second) }
    else incremented
  (entry.value,
    { store with redis := Function.update store.redis key (some entry) })

/-- SET with a TTL. -/
def Store.setKey (store : Store) (key : RedisKey) (ttlSeconds : ℕ) : Store :=
  { store with
    redis := Function.update store.redis key
      (some ⟨1, some (store.clock + ttlSeconds * second)⟩) }

theorem Store.redis_setKey (store : Store) (key : RedisKey)
    (ttlSeconds : ℕ) :
    (store.setKey key ttlSeconds).redis key =
      some ⟨1, some (store.clock + ttlSeconds * second)⟩ :=
  Function.update_self _ _ _

theorem Store.redis_setKey_ne (store : Store) {key written : RedisKey}
    (hkey : key ≠ written) (ttlSeconds : ℕ) :
    (store.setKey written ttlSeconds).redis key = store.redis key :=
  Function.update_of_ne hkey _ _

theorem Store.redis_incrementCounter_ne (store : Store)
    {key counted : RedisKey} (hkey : key ≠ counted) (windowSeconds : ℕ) :
    (store.incrementCounter counted windowSeconds).2.redis key =
      store.redis key :=
  Function.update_of_ne hkey _ _

/-- The keys that the phone-number index lists for a phone number. -/
def Store.phoneKeys (store : Store) (phoneNumber : String) : List String :=
  (store.phoneNumberIndex.entries.filter fun row =>
    row.2 == phoneNumber).map Sigma.fst

/-- The keys of the sessions that the user index lists with `expires_at` after
`now`. -/
def Store.activeKeys (store : Store) (userID : String) (now : TimeText) :
    List String :=
  (store.userSessionsIndex.entries.filter fun row =>
    row.2.userID == some userID && now.before row.2.expiresAt).map Sigma.fst

/-- The items of a query answer, in the order of its keys. -/
def Store.indexedSessions (store : Store) (keys : List String) :
    List (String × SessionItem) :=
  keys.filterMap fun key =>
    (store.userSessionsIndex.lookup key).map fun item => (key, item)

end Access

section Items

/-- `toOTPItem`, without the key. -/
def toOTPItem (record : OTPRecord) : OTPItem where
  otpMAC := record.otpMAC
  otpCiphertext := record.otpCiphertext
  createdAt := record.createdAt
  expiresAt := record.expiresAt
  attemptCount := record.attemptCount
  status := record.status
  ttl := record.ttl

/-- `fromOTPItem` after unmarshalling. -/
def fromOTPItem (phoneHash : String) (item : OTPItem) : OTPRecord where
  phoneHash := phoneHash
  otpMAC := item.otpMAC
  otpCiphertext := item.otpCiphertext
  createdAt := item.createdAt
  expiresAt := item.expiresAt
  status := item.status
  attemptCount := item.attemptCount
  ttl := item.ttl

/-- `fromUserItem` after unmarshalling: absent attributes become zero values,
attributes without a field are dropped. -/
def fromUserItem (userID : String) (item : UserItem) : UserRecord where
  userID := userID
  phoneNumber := item.phoneNumber
  displayName := item.displayName.getD ""
  createdAt := item.createdAt.getD .empty
  updatedAt := item.updatedAt.getD .empty

/-- `fromSessionItem` after unmarshalling. -/
def fromSessionItem (sessionID : String) (item : SessionItem) :
    SessionRecord where
  sessionID := sessionID
  userID := item.userID.getD ""
  deviceID := item.deviceID.getD ""
  refreshTokenHash := item.refreshTokenHash
  prevTokenHash := item.prevTokenHash
  createdAt := item.createdAt.getD .empty
  expiresAt := item.expiresAt
  tokenGeneration := item.tokenGeneration
  ttl := item.ttl

end Items

end MessagingPlatform.Tables
