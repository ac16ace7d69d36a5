import MessagingPlatform.Store.Operations

/-!
# What an operation can do to the store

Every change of the store, once.  Invariants are proved by cases on `Effect`;
no invariant looks into `perform`.
-/

namespace MessagingPlatform.Effects

open Instants
open Errors
open Records
open Identifiers
open Primitives
open Tables
open Operations

/-- The value that a random source handed out. -/
def issuedValue : Entry → Option String
  | ⟨.uuidNewString, value⟩ => some value
  | ⟨.randToken, .ok value⟩ => some value
  | _ => none

/-- A performed operation that left the store as it was. -/
def keepsStore : Entry → Bool
  | ⟨.uuidNewString, _⟩ => false
  | ⟨.randToken, .ok _⟩ => false
  | ⟨.redisEval _ _, .ok _⟩ => false
  | ⟨.redisSet _ _, .ok _⟩ => false
  | ⟨.otpPutItem _ _ _, .ok _⟩ => false
  | ⟨.otpUpdateItem _, .ok _⟩ => false
  | ⟨.sessionsUpdateItem _ _, .ok _⟩ => false
  | ⟨.sessionsDeleteItem _, .ok _⟩ => false
  | ⟨.transactWriteItems _, .ok _⟩ => false
  | _ => true

/-- What a performed operation did to the store. -/
inductive Effect (before : Store) : Entry → Store → Prop
  | unchanged {entry : Entry} (hkeeps : keepsStore entry = true) :
      Effect before entry before
  | uuid (value : String) (hshape : isUUIDText value = true)
      (hfresh : value ∉ before.issued) :
      Effect before ⟨.uuidNewString, value⟩
        { before with issued := value :: before.issued }
  | token (value : String) (hfresh : value ∉ before.issued) :
      Effect before ⟨.randToken, .ok value⟩
        { before with issued := value :: before.issued }
  | counted (key : RedisKey) (windowSeconds : ℕ) :
      Effect before
        ⟨.redisEval key windowSeconds,
          .ok (before.incrementCounter key windowSeconds).1⟩
        (before.incrementCounter key windowSeconds).2
  | keySet (key : RedisKey) (ttlSeconds : ℕ) :
      Effect before ⟨.redisSet key ttlSeconds, .ok ()⟩
        (before.setKey key ttlSeconds)
  | otpPut (phoneHash : String) (item : OTPItem) (now : TimeText)
      (hreplaceable : otpReplaceable now
        (before.otpRequests.lookup phoneHash) = true) :
      Effect before ⟨.otpPutItem phoneHash item now, .ok ()⟩
        { before with
          otpRequests := before.otpRequests.insert phoneHash item }
  | otpIncremented (phoneHash : String) (item : OTPItem)
      (hitem : before.otpRequests.lookup phoneHash = some item) :
      Effect before ⟨.otpUpdateItem phoneHash, .ok ()⟩
        { before with
          otpRequests := before.otpRequests.insert phoneHash
            { item with attemptCount := item.attemptCount + 1 } }
  | sessionUpdated (sessionID : String) (update : SessionUpdate) :
      Effect before ⟨.sessionsUpdateItem sessionID update, .ok ()⟩
        { before with
          sessions := before.sessions.insert sessionID
            (updatedSession update (before.sessions.lookup sessionID)) }
  | sessionDeleted (sessionID : String) :
      Effect before ⟨.sessionsDeleteItem sessionID, .ok ()⟩
        { before with sessions := before.sessions.erase sessionID }
  | committed (items : List TransactWriteItem)
      (hholds : ∀ item ∈ items, item.holds before = true) :
      Effect before ⟨.transactWriteItems items, .ok ()⟩
        (items.foldl TransactWriteItem.write before)

variable {cfg : AuthServiceConfig} {op : Op} {choice : Choice}
variable {before after : Store} {response : op.Res}

theorem effect_of_failure {text : String}
    (hfailure : op.failure text = some response) :
    Effect before ⟨op, response⟩ before := by
  apply Effect.unchanged
  cases op <;> simp only [Op.failure, Option.some.injEq, reduceCtorEq]
    at hfailure <;> subst hfailure <;> rfl

theorem effect_of_cancellation {reasons : List String} {state : Store}
    (hcancellation : op.cancellation state reasons = some response) :
    Effect before ⟨op, response⟩ before := by
  apply Effect.unchanged
  cases op <;> simp only [Op.cancellation, reduceCtorEq] at hcancellation
  split at hcancellation
  · cases hcancellation
    rfl
  · cases hcancellation

theorem effect_of_success
    (heffect : effect cfg op choice before = some (response, after)) :
    Effect before ⟨op, response⟩ after := by
  unfold effect at heffect
  split at heffect
  all_goals first
    | cases heffect; exact .unchanged rfl
    | cases heffect; exact .counted _ _
    | cases heffect; exact .keySet _ _
    | cases heffect; exact .sessionUpdated _ _
    | cases heffect; exact .sessionDeleted _
    | cases heffect
    | skip
  · split at heffect
    · next hfresh =>
        cases heffect
        exact .uuid _ hfresh.1 hfresh.2
    · cases heffect
  · split at heffect
    · cases heffect
      exact .unchanged rfl
    · cases heffect
  · split at heffect
    · next hfresh =>
        cases heffect
        exact .token _ hfresh
    · cases heffect
  · split at heffect
    · next hreplaceable =>
        cases heffect
        exact .otpPut _ _ _ hreplaceable
    · cases heffect
      exact .unchanged rfl
  · split at heffect
    · cases heffect
      exact .unchanged rfl
    · next hitem =>
        cases heffect
        exact .otpIncremented _ _ hitem
  · split at heffect
    · cases heffect
      exact .unchanged rfl
    · cases heffect
  · split at heffect
    · cases heffect
      exact .unchanged rfl
    · cases heffect
  · split at heffect
    · next hholds =>
        cases heffect
        exact .committed _ (List.all_eq_true.mp hholds)
    · cases heffect
      exact .unchanged rfl

/-- Everything an operation can do. -/
theorem effect_of_perform
    (hperform : perform cfg op choice before = some (response, after)) :
    Effect before ⟨op, response⟩ after := by
  unfold perform at hperform
  split at hperform
  · obtain ⟨failed, hfailure, heq⟩ := Option.map_eq_some_iff.mp hperform
    cases heq
    exact effect_of_failure hfailure
  · obtain ⟨failed, hfailure, heq⟩ := Option.map_eq_some_iff.mp hperform
    cases heq
    exact effect_of_cancellation hfailure
  · exact effect_of_success hperform

section Issuing

/-- Transactions keep what does not depend on the tables they write. -/
theorem keeps_writes {Field : Type} {field : Store → Field}
    (hotp : ∀ (store : Store) table,
      field { store with otpRequests := table } = field store)
    (husers : ∀ (store : Store) table,
      field { store with users := table } = field store)
    (hsessions : ∀ (store : Store) table,
      field { store with sessions := table } = field store)
    (items : List TransactWriteItem) (store : Store) :
    field (items.foldl TransactWriteItem.write store) = field store := by
  induction items generalizing store with
  | nil => rfl
  | cons item rest ih =>
      rw [List.foldl_cons, ih]
      cases item with
      | otpVerifyUpdate phoneHash expiresAt otpMAC =>
          simp only [TransactWriteItem.write]
          split
          · rfl
          · exact hotp store _
      | userPut userID item => exact husers store _
      | sessionPut sessionID item => exact hsessions store _

theorem issuedValue_of_keepsStore {entry : Entry}
    (hkeeps : keepsStore entry = true) : issuedValue entry = none := by
  unfold issuedValue
  split
  · simp [keepsStore] at hkeeps
  · simp [keepsStore] at hkeeps
  · rfl

theorem Effect.issued {before after : Store} {entry : Entry}
    (heffect : Effect before entry after) :
    after.issued = (issuedValue entry).toList ++ before.issued ∧
      ∀ value, issuedValue entry = some value → value ∉ before.issued := by
  cases heffect with
  | unchanged hkeeps =>
      rw [issuedValue_of_keepsStore hkeeps]
      exact ⟨rfl, fun value hvalue => by cases hvalue⟩
  | uuid value hshape hfresh | token value hfresh =>
      refine ⟨rfl, fun other hother => ?_⟩
      cases hother
      exact hfresh
  | committed items hholds =>
      exact ⟨keeps_writes (fun _ _ => rfl) (fun _ _ => rfl) (fun _ _ => rfl)
          items before,
        fun value hvalue => by cases hvalue⟩
  | _ => exact ⟨rfl, fun value hvalue => by cases hvalue⟩

end Issuing

section Frames

variable {entry : Entry}

/-- Operations take no time. -/
theorem Effect.clock (heffect : Effect before entry after) :
    after.clock = before.clock := by
  cases heffect with
  | committed items hholds =>
      exact keeps_writes (fun _ _ => rfl) (fun _ _ => rfl) (fun _ _ => rfl)
        items before
  | _ => rfl

/-- Operations leave the phone-number index to its replication. -/
theorem Effect.phoneNumberIndex (heffect : Effect before entry after) :
    after.phoneNumberIndex = before.phoneNumberIndex := by
  cases heffect with
  | committed items hholds =>
      exact keeps_writes (fun _ _ => rfl) (fun _ _ => rfl) (fun _ _ => rfl)
        items before
  | _ => rfl

/-- Operations leave the session index to its replication. -/
theorem Effect.userSessionsIndex (heffect : Effect before entry after) :
    after.userSessionsIndex = before.userSessionsIndex := by
  cases heffect with
  | committed items hholds =>
      exact keeps_writes (fun _ _ => rfl) (fun _ _ => rfl) (fun _ _ => rfl)
        items before
  | _ => rfl

/-- A user that is stored stays as it is: users are only put where there is
none. -/
theorem Effect.users_kept (heffect : Effect before entry after) {key : String}
    {user : UserItem} (huser : before.users.lookup key = some user) :
    after.users.lookup key = some user := by
  cases heffect with
  | committed items hholds =>
      have hkeep : ∀ (writes : List TransactWriteItem) (store : Store),
          (∀ item ∈ writes, item.holds before = true) →
          store.users.lookup key = some user →
          (writes.foldl TransactWriteItem.write store).users.lookup key =
            some user := by
        intro writes
        induction writes with
        | nil => exact fun store _ hstore => hstore
        | cons item rest ih =>
            intro store hwrites hstore
            rw [List.foldl_cons]
            apply ih _ fun other hother =>
              hwrites other (List.mem_cons_of_mem item hother)
            cases item with
            | otpVerifyUpdate phoneHash expiresAt otpMAC =>
                simp only [TransactWriteItem.write]
                split <;> exact hstore
            | userPut userID put =>
                have hholds := hwrites _ List.mem_cons_self
                have hother : key ≠ userID := by
                  rintro rfl
                  simp [TransactWriteItem.holds, huser] at hholds
                rw [TransactWriteItem.write, AList.lookup_insert_ne hother]
                exact hstore
            | sessionPut sessionID put => exact hstore
      exact hkeep items before hholds huser
  | _ => exact huser

/-- A request that writes a Redis key. -/
def writesKey (key : RedisKey) : Entry → Bool
  | ⟨.redisEval counted _, .ok _⟩ => counted == key
  | ⟨.redisSet written _, .ok _⟩ => written == key
  | _ => false

/-- What a request can do to a Redis key. -/
inductive KeyChange (key : RedisKey) (before : Store) :
    Entry → Option RedisEntry → Prop
  | kept {entry : Entry} (hkeeps : writesKey key entry = false) :
      KeyChange key before entry (before.redis key)
  | counted (windowSeconds : ℕ) :
      KeyChange key before
        ⟨.redisEval key windowSeconds,
          .ok (before.incrementCounter key windowSeconds).1⟩
        ((before.incrementCounter key windowSeconds).2.redis key)
  | set (ttlSeconds : ℕ) :
      KeyChange key before ⟨.redisSet key ttlSeconds, .ok ()⟩
        (some ⟨1, some (before.clock + ttlSeconds * second)⟩)

theorem writesKey_of_keepsStore {key : RedisKey}
    (hkeeps : keepsStore entry = true) : writesKey key entry = false := by
  unfold writesKey
  split
  · cases hkeeps
  · cases hkeeps
  · rfl

theorem Effect.keyChange (key : RedisKey)
    (heffect : Effect before entry after) :
    KeyChange key before entry (after.redis key) := by
  cases heffect with
  | unchanged hkeeps => exact .kept (writesKey_of_keepsStore hkeeps)
  | counted counted windowSeconds =>
      by_cases hkey : counted = key
      · subst hkey
        exact .counted windowSeconds
      · rw [Store.redis_incrementCounter_ne before (Ne.symm hkey)]
        exact .kept (by simp [writesKey, hkey])
  | keySet written ttlSeconds =>
      by_cases hkey : written = key
      · subst hkey
        rw [Store.redis_setKey]
        exact .set ttlSeconds
      · rw [Store.redis_setKey_ne before (Ne.symm hkey)]
        exact .kept (by simp [writesKey, hkey])
  | committed items hholds =>
      have hredis : (items.foldl TransactWriteItem.write before).redis =
          before.redis :=
        keeps_writes (fun _ _ => rfl) (fun _ _ => rfl) (fun _ _ => rfl) items
          before
      rw [hredis]
      exact .kept rfl
  | _ => exact .kept rfl

end Frames

section Environment

/-- What the environment leaves alone: it moves the clock forward and the
indexes towards the tables. -/
structure Framed (before after : Store) : Prop where
  clock : before.clock ≤ after.clock
  issued : after.issued = before.issued
  redis : after.redis = before.redis
  otpRequests : after.otpRequests = before.otpRequests
  users : after.users = before.users
  sessions : after.sessions = before.sessions

theorem framed_of_advance {change : Operations.Env}
    (hadvance : advance change before = some after) : Framed before after := by
  cases change with
  | tick now =>
      simp only [advance] at hadvance
      split at hadvance
      · next hclock =>
          cases hadvance
          exact ⟨hclock, rfl, rfl, rfl, rfl, rfl⟩
      · cases hadvance
  | replicateUser | replicateSession =>
      cases hadvance
      exact ⟨le_refl _, rfl, rfl, rfl, rfl, rfl⟩

/-- What the session index lists was listed before, or is in the table and has
a user. -/
theorem indexed_of_advance {change : Operations.Env} {sessionID : String}
    {item : SessionItem} (hadvance : advance change before = some after)
    (hitem : after.userSessionsIndex.lookup sessionID = some item) :
    before.userSessionsIndex.lookup sessionID = some item ∨
      before.sessions.lookup sessionID = some item ∧
        item.userID.isSome = true := by
  cases change with
  | tick now =>
      simp only [advance] at hadvance
      split at hadvance
      · cases hadvance
        exact Or.inl hitem
      · cases hadvance
  | replicateUser userID =>
      cases hadvance
      exact Or.inl hitem
  | replicateSession replicated =>
      cases hadvance
      dsimp only at hitem
      by_cases hsession : sessionID = replicated
      · subst hsession
        split at hitem
        · rw [AList.lookup_erase] at hitem
          cases hitem
        · next found hfound =>
            split at hitem
            · next hkeyed =>
                rw [AList.lookup_insert, Option.some.injEq] at hitem
                exact Or.inr (hitem ▸ ⟨hfound, hkeyed⟩)
            · rw [AList.lookup_erase] at hitem
              cases hitem
      · left
        split at hitem
        · rwa [AList.lookup_erase_ne hsession] at hitem
        · split at hitem
          · rwa [AList.lookup_insert_ne hsession] at hitem
          · rwa [AList.lookup_erase_ne hsession] at hitem

/-- Time passes by ticks only. -/
theorem clock_of_advance {change : Operations.Env}
    (hadvance : advance change before = some after) :
    change = .tick after.clock ∨ after.clock = before.clock := by
  cases change with
  | tick now =>
      simp only [advance] at hadvance
      split at hadvance
      · cases hadvance
        exact Or.inl rfl
      · cases hadvance
  | replicateUser | replicateSession =>
      cases hadvance
      exact Or.inr rfl

end Environment

section Answers

/-- What a successful read says about the store it was answered from. -/
def Answers (cfg : AuthServiceConfig) (before : Store) : Entry → Prop
  | ⟨.clockNow, now⟩ => now = before.clock
  | ⟨.randInt bound, .ok value⟩ => value < bound
  | ⟨.redisExists key, .ok found⟩ => found = (before.liveEntry key).isSome
  | ⟨.otpGetItem phoneHash, .ok item⟩ =>
      item = before.otpRequests.lookup phoneHash
  | ⟨.verifyOTPMAC otpCandidate phoneHash expiresAt storedMAC, matched⟩ =>
      matched = verifyOTPMAC cfg otpCandidate phoneHash expiresAt.render
        storedMAC
  | ⟨.usersQuery phoneNumber, .ok keys⟩ =>
      keys.Perm (before.phoneKeys phoneNumber)
  | ⟨.usersGetItem userID, .ok item⟩ => item = before.users.lookup userID
  | ⟨.sessionsGetItem sessionID, .ok item⟩ =>
      item = before.sessions.lookup sessionID
  | ⟨.sessionsQuery userID now, .ok rows⟩ =>
      ∃ keys, keys.Perm (before.activeKeys userID now) ∧
        rows = before.indexedSessions keys
  | _ => True

theorem answers_of_success
    (heffect : effect cfg op choice before = some (response, after)) :
    Answers cfg before ⟨op, response⟩ := by
  unfold effect at heffect
  split at heffect
  all_goals first
    | cases heffect; trivial
    | cases heffect
    | skip
  all_goals split at heffect
  all_goals first
    | cases heffect; trivial
    | cases heffect; exact ⟨_, ‹_›, rfl⟩
    | cases heffect

theorem answers_of_perform
    (hperform : perform cfg op choice before = some (response, after)) :
    Answers cfg before ⟨op, response⟩ := by
  unfold perform at hperform
  split at hperform
  · obtain ⟨failed, hfailure, heq⟩ := Option.map_eq_some_iff.mp hperform
    cases heq
    cases op <;> simp only [Op.failure, Option.some.injEq, reduceCtorEq]
      at hfailure <;> subst hfailure <;> trivial
  · obtain ⟨failed, hfailure, heq⟩ := Option.map_eq_some_iff.mp hperform
    cases heq
    cases op <;> trivial
  · exact answers_of_success hperform

end Answers

end MessagingPlatform.Effects
