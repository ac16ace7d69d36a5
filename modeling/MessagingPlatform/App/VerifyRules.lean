import MessagingPlatform.Adapter.StoreRules
import MessagingPlatform.App.Flows

/-!
# What a verification does

The guard of `VerifyOTP`: each request it makes, with the history of the call
in which it makes it.  A history pins down what the call has read, so the guard
of the final transaction carries the whole chain from the rate limit to the
evictions.  Responses are arbitrary; nothing here depends on the store.
-/

namespace MessagingPlatform.VerifyRules

open Program
open Instants
open Errors
open Records
open Identifiers
open Primitives
open Tables
open Operations
open Stores
open StoreRules
open Flows

section Entries

/-- A transaction that went through. -/
def commits : Entry → Bool
  | ⟨.transactWriteItems _, .ok ()⟩ => true
  | _ => false

/-- A performed write to the users, the sessions, the revocation keys or the
status of an OTP record. -/
def changes : Entry → Bool
  | ⟨.transactWriteItems _, .ok ()⟩ => true
  | ⟨.sessionsUpdateItem _ _, .ok ()⟩ => true
  | ⟨.sessionsDeleteItem _, .ok ()⟩ => true
  | ⟨.redisSet (.revokedJTI _) _, .ok ()⟩ => true
  | _ => false

/-- No transaction of the history went through. -/
def Uncommitted (history : History) : Prop :=
  ∀ entry ∈ history, commits entry = false

/-- The history changed nothing that a failed verification must leave. -/
def Quiet (history : History) : Prop :=
  ∀ entry ∈ history, changes entry = false

theorem commits_eq_false_of_changes {entry : Entry}
    (hentry : changes entry = false) : commits entry = false := by
  cases hcommits : commits entry with
  | false => rfl
  | true =>
      unfold commits at hcommits
      split at hcommits
      · simp [changes] at hentry
      · cases hcommits

theorem Quiet.uncommitted {history : History} (hquiet : Quiet history) :
    Uncommitted history := fun entry hentry =>
  commits_eq_false_of_changes (hquiet entry hentry)

theorem changes_of_isLookup {entry : Entry}
    (hlookup : isLookup entry.1 = true) : changes entry = false := by
  obtain ⟨op, response⟩ := entry
  cases op <;> first | rfl | cases hlookup

@[simp]
theorem uncommitted_nil : Uncommitted [] := by simp [Uncommitted]

@[simp]
theorem uncommitted_cons {entry : Entry} {history : History} :
    Uncommitted (entry :: history) ↔
      commits entry = false ∧ Uncommitted history := by
  simp [Uncommitted]

@[simp]
theorem uncommitted_append {newer older : History} :
    Uncommitted (newer ++ older) ↔ Uncommitted newer ∧ Uncommitted older := by
  simp [Uncommitted, or_imp, forall_and]

@[simp]
theorem quiet_nil : Quiet [] := by simp [Quiet]

@[simp]
theorem quiet_cons {entry : Entry} {history : History} :
    Quiet (entry :: history) ↔ changes entry = false ∧ Quiet history := by
  simp [Quiet]

@[simp]
theorem quiet_append {newer older : History} :
    Quiet (newer ++ older) ↔ Quiet newer ∧ Quiet older := by
  simp [Quiet, or_imp, forall_and]

end Entries

section Stages

/-- The limits of a verification, passed. -/
def limitEntries (phoneHash : String) (count : ℕ) : History :=
  [⟨.redisExists (.otpLockoutPhone phoneHash), .ok false⟩,
    ⟨.redisEval (.otpVerifyPhone phoneHash) (wholeSeconds otpRateLimitWindow),
      .ok count⟩]

/-- What a verification knows when it compares its candidate: the count of the
rate limit, the record read, and the time at which the record was checked. -/
structure Attempt where
  count : ℕ
  item : OTPItem
  now : Time

/-- The checks a record passes before a candidate is compared with it. -/
structure Attempt.Usable (tried : Attempt) : Prop where
  counted : tried.count ≤ maxOTPVerifyAttempts
  pending : tried.item.status = .pending
  attempts : tried.item.attemptCount < maxOTPVerifyAttempts
  unexpired : ∃ expiry, parse tried.item.expiresAt = some expiry ∧
    tried.now ≤ expiry

def Attempt.readEntries (tried : Attempt) (phoneHash : String) : History :=
  ⟨.otpGetItem phoneHash, .ok (some tried.item)⟩ ::
    limitEntries phoneHash tried.count

/-- The history of a verification that has compared its candidate. -/
def Attempt.comparedEntries (tried : Attempt)
    (phoneHash otpCandidate : String) (matched : Bool) : History :=
  ⟨.verifyOTPMAC otpCandidate phoneHash tried.item.expiresAt
      tried.item.otpMAC, matched⟩ ::
    ⟨.clockNow, tried.now⟩ :: tried.readEntries phoneHash

/-- A history in which the candidate has been accepted and nothing written. -/
structure Accepted (phoneHash otpCandidate : String) (tried : Attempt)
    (history : History) : Prop where
  usable : tried.Usable
  compared : tried.comparedEntries phoneHash otpCandidate true <:+ history
  quiet : Quiet history

/-- A registration that is about to commit. -/
structure Registration where
  tried : Attempt
  base : History
  userID : String
  sessionID : String
  now : Time
  refreshToken : String

def Registration.entries (registration : Registration) : History :=
  ⟨.randToken, .ok registration.refreshToken⟩ ::
    ⟨.clockNow, registration.now⟩ ::
    ⟨.uuidNewString, registration.sessionID⟩ ::
    ⟨.uuidNewString, registration.userID⟩ :: registration.base

/-- A login that has listed the sessions of its user. -/
structure Login where
  tried : Attempt
  base : History
  userID : String
  others : List String
  userItem : UserItem
  listedAt : Time
  rows : List (String × SessionItem)

/-- The history of a login that is about to list the sessions. -/
def Login.listingEntries (login : Login) (phone : String) : History :=
  ⟨.clockNow, login.listedAt⟩ ::
    (foundEntries phone login.userID login.others login.userItem ++
      login.base)

def Login.listedEntries (login : Login) (phone : String) : History :=
  ⟨.sessionsQuery login.userID (format login.listedAt), .ok login.rows⟩ ::
    login.listingEntries phone

/-- The requests that evict sessions one after another, newest first. -/
def evictionEntries : List SessionRecord → History
  | [] => []
  | session :: rest =>
      evictionEntries rest ++
        [⟨.redisSet (.revokedJTI session.sessionID) revokedJTITTL, .ok ()⟩,
          ⟨.sessionsDeleteItem session.sessionID, .ok ()⟩]

theorem evictionEntries_append (first second : List SessionRecord) :
    evictionEntries (first ++ second) =
      evictionEntries second ++ evictionEntries first := by
  induction first with
  | nil => simp [evictionEntries]
  | cons session rest ih =>
      simp only [List.cons_append, evictionEntries, ih, List.append_assoc]

theorem mem_evictionEntries {sessions : List SessionRecord} {entry : Entry}
    (hentry : entry ∈ evictionEntries sessions) :
    ∃ session ∈ sessions,
      entry = ⟨.sessionsDeleteItem session.sessionID, .ok ()⟩ ∨
      entry =
        ⟨.redisSet (.revokedJTI session.sessionID) revokedJTITTL, .ok ()⟩ := by
  induction sessions with
  | nil => simp [evictionEntries] at hentry
  | cons session rest ih =>
      simp only [evictionEntries, List.mem_append, List.mem_cons,
        List.not_mem_nil, or_false] at hentry
      rcases hentry with hrest | hrevoke | hdelete
      · obtain ⟨found, hfound, hshape⟩ := ih hrest
        exact ⟨found, List.mem_cons_of_mem _ hfound, hshape⟩
      · exact ⟨session, List.mem_cons_self, Or.inr hrevoke⟩
      · exact ⟨session, List.mem_cons_self, Or.inl hdelete⟩

theorem uncommitted_evictionEntries (sessions : List SessionRecord) :
    Uncommitted (evictionEntries sessions) := by
  intro entry hentry
  obtain ⟨session, -, hdelete | hrevoke⟩ := mem_evictionEntries hentry
  · rw [hdelete]
    rfl
  · rw [hrevoke]
    rfl

/-- The sessions a login evicts: those of its device, then the excess. -/
def Login.evicted (cfg : AuthServiceConfig) (login : Login)
    (deviceID : String) : List SessionRecord :=
  conflictingSessions (listedSessions login.rows) deviceID ++
    excessSessions cfg (listedSessions login.rows) deviceID

/-- The session that a login is about to create. -/
structure NewSession where
  sessionID : String
  now : Time
  refreshToken : String

def NewSession.entries (created : NewSession) : History :=
  [⟨.randToken, .ok created.refreshToken⟩, ⟨.clockNow, created.now⟩,
    ⟨.uuidNewString, created.sessionID⟩]

end Stages

section Guard

variable (cfg : AuthServiceConfig)

def Registration.params (registration : Registration)
    (phone deviceID : String) : RegistrationParams where
  phoneHash := hashPhone cfg phone
  otpExpiresAt := registration.tried.item.expiresAt
  otpMAC := registration.tried.item.otpMAC
  userID := registration.userID
  phoneNumber := phone
  now := format registration.now
  sessionID := registration.sessionID
  deviceID := deviceID
  refreshTokenHash := hashRefreshToken cfg registration.refreshToken
  sessionExpiresAt := format (registration.now + refreshTokenLifetime)
  sessionTTL := unix (registration.now + refreshTokenLifetime)

def Login.params (login : Login) (created : NewSession)
    (phone deviceID : String) : LoginParams where
  phoneHash := hashPhone cfg phone
  otpExpiresAt := login.tried.item.expiresAt
  otpMAC := login.tried.item.otpMAC
  sessionID := created.sessionID
  userID := login.userID
  deviceID := deviceID
  refreshTokenHash := hashRefreshToken cfg created.refreshToken
  createdAt := format created.now
  sessionExpiresAt := format (created.now + refreshTokenLifetime)
  sessionTTL := unix (created.now + refreshTokenLifetime)

/-- The history of a login that has evicted the sessions `evicted`. -/
def Login.evictedEntries (login : Login) (phone : String)
    (evicted : List SessionRecord) : History :=
  evictionEntries evicted ++ login.listedEntries phone

/-- The sessions that a transaction creates. -/
def putSessions (items : List TransactWriteItem) :
    List (String × SessionItem) :=
  items.filterMap fun item =>
    match item with
    | .sessionPut sessionID item => some (sessionID, item)
    | _ => none

/-- The requests of `VerifyOTP` and the histories it makes them in. -/
def verifyGuard (phone otpCandidate deviceID : String) (older : History) :
    Op → Prop
  | .redisEval key windowSeconds =>
      key = .otpVerifyPhone (hashPhone cfg phone) ∧
        windowSeconds = wholeSeconds otpRateLimitWindow ∧ older = []
  | .redisExists key =>
      key = .otpLockoutPhone (hashPhone cfg phone) ∧
        ∃ count ≤ maxOTPVerifyAttempts,
          older = [⟨.redisEval (.otpVerifyPhone (hashPhone cfg phone))
            (wholeSeconds otpRateLimitWindow), .ok count⟩]
  | .otpGetItem phoneHash =>
      phoneHash = hashPhone cfg phone ∧
        ∃ count ≤ maxOTPVerifyAttempts, older = limitEntries phoneHash count
  | .verifyOTPMAC candidate phoneHash expiresAt storedMAC =>
      candidate = otpCandidate ∧ phoneHash = hashPhone cfg phone ∧
        ∃ tried : Attempt, tried.Usable ∧
          expiresAt = tried.item.expiresAt ∧ storedMAC = tried.item.otpMAC ∧
          older = ⟨.clockNow, tried.now⟩ :: tried.readEntries phoneHash
  | .otpUpdateItem phoneHash =>
      phoneHash = hashPhone cfg phone ∧ ∃ tried : Attempt, tried.Usable ∧
        older = tried.comparedEntries phoneHash otpCandidate false
  | .redisSet key ttlSeconds =>
      (key = .otpLockoutPhone (hashPhone cfg phone) ∧
        ttlSeconds = wholeSeconds otpLockoutDuration ∧
        ∃ tried : Attempt, maxOTPVerifyAttempts ≤ tried.item.attemptCount ∧
          older = tried.readEntries (hashPhone cfg phone)) ∨
      ∃ (login : Login) (done : List SessionRecord) (session : SessionRecord)
        (rest : List SessionRecord),
        key = .revokedJTI session.sessionID ∧ ttlSeconds = revokedJTITTL ∧
        Accepted (hashPhone cfg phone) otpCandidate login.tried login.base ∧
        login.evicted cfg deviceID = done ++ session :: rest ∧
        older = ⟨.sessionsDeleteItem session.sessionID, .ok ()⟩ ::
          login.evictedEntries phone done
  | .usersQuery phoneNumber =>
      phoneNumber = phone ∧ ∃ tried : Attempt,
        Accepted (hashPhone cfg phone) otpCandidate tried older
  | .sessionsQuery userID now =>
      ∃ login : Login,
        Accepted (hashPhone cfg phone) otpCandidate login.tried login.base ∧
        userID = login.userID ∧ now = format login.listedAt ∧
        older = login.listingEntries phone
  | .sessionsDeleteItem sessionID =>
      ∃ (login : Login) (done : List SessionRecord) (session : SessionRecord)
        (rest : List SessionRecord),
        sessionID = session.sessionID ∧
        Accepted (hashPhone cfg phone) otpCandidate login.tried login.base ∧
        login.evicted cfg deviceID = done ++ session :: rest ∧
        older = login.evictedEntries phone done
  | .transactWriteItems items =>
      (∃ registration : Registration,
        Accepted (hashPhone cfg phone) otpCandidate registration.tried
          registration.base ∧
        items = registrationItems
          (registration.params cfg phone deviceID) ∧
        older = registration.entries) ∨
      ∃ (login : Login) (created : NewSession),
        Accepted (hashPhone cfg phone) otpCandidate login.tried login.base ∧
        items = loginItems (login.params cfg created phone deviceID) ∧
        older = created.entries ++
          login.evictedEntries phone (login.evicted cfg deviceID)
  | .clockNow => True
  | .uuidNewString => True
  | .randToken => Uncommitted older
  | .ctxErr => True
  | .usersGetItem _ => True
  | .signingKey => True
  | .signedString _ _ claims => ∃ items item base,
      putSessions items = [(claims.sessionID, item)] ∧
        item.userID = some claims.subject ∧
        Signs cfg claims.subject claims.sessionID
          (⟨.transactWriteItems items, .ok ()⟩ :: base) older claims
  | _ => False

/-- The identifiers of the sessions that a transaction creates. -/
def createdSessions (items : List TransactWriteItem) : List String :=
  (putSessions items).map Prod.fst

/-- What a verification has done when it returns.  It fails after its
transaction only if the mint fails. -/
def verifyPost (reached : History) : Except GoError VerifyOTPResult → Prop
  | .ok result => ∃ items added older,
      reached = added ++ ⟨.transactWriteItems items, .ok ()⟩ :: older ∧
      (∀ entry ∈ added, isMint entry.1 = true) ∧
      createdSessions items = [result.sessionID]
  | .error _ => Uncommitted reached ∨ ∃ items added older,
      reached = added ++ ⟨.transactWriteItems items, .ok ()⟩ :: older ∧
      (∀ entry ∈ added, isMint entry.1 = true) ∧ MintFailed added

end Guard

section Checks

variable {cfg : AuthServiceConfig} {phone otpCandidate deviceID : String}

theorem sat_checkVerifyRateLimits {post : History → Except GoError Unit → Prop}
    (herror : ∀ reached err, Uncommitted reached → post reached (.error err))
    (hok : ∀ count ≤ maxOTPVerifyAttempts,
      post (limitEntries (hashPhone cfg phone) count) (.ok ())) :
    Sat (verifyGuard cfg phone otpCandidate deviceID) post
      (checkVerifyRateLimits (hashPhone cfg phone)).run [] := by
  unfold checkVerifyRateLimits
  rw [sat_run_bind, sat_wrapError]
  apply sat_checkAndIncrement
  · exact ⟨rfl, rfl, rfl⟩
  · intro cause err
    apply herror
    simp [commits]
  · intro count
    by_cases hcount : count ≤ maxOTPVerifyAttempts
    · simp only [hcount, decide_true, Except.mapError, Bool.not_true,
        Bool.false_eq_true, if_false]
      rw [sat_run_bind, sat_wrapError]
      apply sat_checkLockout
      · exact ⟨rfl, count, hcount, rfl⟩
      · intro cause err
        apply herror
        simp [commits]
      · intro locked
        cases locked with
        | false => exact hok count hcount
        | true =>
            apply herror
            simp [commits]
    · simp only [hcount, decide_false, Except.mapError, Bool.not_false,
        if_true]
      apply herror
      simp [commits]

theorem sat_readOTPRecord {post : History → Except GoError OTPRecord → Prop}
    {count : ℕ} (hcount : count ≤ maxOTPVerifyAttempts)
    (herror : ∀ reached err, Uncommitted reached → post reached (.error err))
    (hok : ∀ item,
      post (⟨.otpGetItem (hashPhone cfg phone), .ok (some item)⟩ ::
          limitEntries (hashPhone cfg phone) count)
        (.ok (fromOTPItem (hashPhone cfg phone) item))) :
    Sat (verifyGuard cfg phone otpCandidate deviceID) post
      (readOTPRecord (hashPhone cfg phone)).run
      (limitEntries (hashPhone cfg phone) count) := by
  have hfail : ∀ (reached : History) (err : GoError), Uncommitted reached →
      Sat (verifyGuard cfg phone otpCandidate deviceID) post
        (if errorsIs .errNotFound err = true then
          throw (.sentinel .errInvalidOTP)
        else throw (wrapped "get OTP: %w" err) : Flow OTPRecord).run
        reached := by
    intro reached err hreached
    split <;> exact herror _ _ hreached
  unfold readOTPRecord
  rw [sat_run_bind, sat_attempt]
  apply sat_getOTP
  · exact ⟨rfl, count, hcount, rfl⟩
  · intro cause err
    apply hfail
    simp [limitEntries, commits]
  · intro err
    apply hfail
    simp [limitEntries, commits]
  · intro item
    exact hok item

theorem status_eq_pending {status : OTPStatus} (hstatus : status ≠ .verified) :
    status = .pending := by
  cases status with
  | pending => rfl
  | verified => exact absurd rfl hstatus

theorem sat_validateOTPRecord
    {post : History → Except GoError OTPRecord → Prop} {count : ℕ}
    (hcount : count ≤ maxOTPVerifyAttempts)
    (herror : ∀ reached err, Uncommitted reached → post reached (.error err))
    (hok : ∀ tried : Attempt, tried.Usable →
      post (tried.comparedEntries (hashPhone cfg phone) otpCandidate true)
        (.ok (fromOTPItem (hashPhone cfg phone) tried.item))) :
    Sat (verifyGuard cfg phone otpCandidate deviceID) post
      (validateOTPRecord (hashPhone cfg phone) otpCandidate).run
      (limitEntries (hashPhone cfg phone) count) := by
  unfold validateOTPRecord
  rw [sat_run_bind]
  apply sat_readOTPRecord hcount
  · exact herror
  intro item
  by_cases hverified : item.status = .verified
  · simp only [fromOTPItem, hverified, if_true]
    apply herror
    simp [limitEntries, commits]
  by_cases hattempts : item.attemptCount ≥ maxOTPVerifyAttempts
  · simp only [fromOTPItem, hverified, hattempts, if_true, if_false]
    rw [sat_run_bind, sat_attempt]
    apply sat_setLockout
    · exact Or.inl ⟨rfl, rfl, ⟨count, item, 0⟩, hattempts, rfl⟩
    · intro cause err
      apply herror
      simp [limitEntries, commits]
    · apply herror
      simp [limitEntries, commits]
  cases hparse : parse item.expiresAt with
  | none =>
      simp only [fromOTPItem, hverified, hattempts, hparse, if_false]
      apply herror
      simp [limitEntries, commits]
  | some expiry =>
      simp only [fromOTPItem, hverified, hattempts, hparse, if_false]
      rw [sat_run_bind, sat_request]
      refine ⟨trivial, fun now => ?_⟩
      by_cases hexpired : now > expiry
      · simp only [hexpired, if_true]
        apply herror
        simp [limitEntries, commits]
      simp only [hexpired, if_false]
      have husable : Attempt.Usable ⟨count, item, now⟩ :=
        { counted := hcount
          pending := status_eq_pending hverified
          attempts := not_le.mp hattempts
          unexpired := ⟨expiry, hparse, not_lt.mp hexpired⟩ }
      rw [sat_run_bind, sat_request]
      refine ⟨⟨rfl, rfl, _, husable, rfl, rfl, rfl⟩, fun matched => ?_⟩
      cases matched with
      | true => exact hok ⟨count, item, now⟩ husable
      | false =>
          simp only [Bool.false_eq_true, if_false]
          rw [sat_run_bind, sat_attempt]
          apply sat_incrementAttempts
          · exact ⟨rfl, _, husable, rfl⟩
          · intro response outcome
            apply herror
            simp [limitEntries, commits]

end Checks

section Evictions

variable {guard : History → Op → Prop} {history : History}

/-- The requests of an eviction. -/
def isEviction : Op → Bool
  | .sessionsDeleteItem _ => true
  | .redisSet _ _ => true
  | _ => false

theorem commits_of_isEviction {entry : Entry}
    (heviction : isEviction entry.1 = true) : commits entry = false := by
  obtain ⟨op, response⟩ := entry
  cases op <;> first | rfl | cases heviction

theorem sat_evictSessions {post : History → Except GoError Unit → Prop}
    {deleteText revokeText : String} {sessions : List SessionRecord}
    (hdelete : ∀ done session rest, sessions = done ++ session :: rest →
      guard (evictionEntries done ++ history)
        (.sessionsDeleteItem session.sessionID))
    (hrevoke : ∀ done session rest, sessions = done ++ session :: rest →
      guard (⟨.sessionsDeleteItem session.sessionID, .ok ()⟩ ::
          (evictionEntries done ++ history))
        (.redisSet (.revokedJTI session.sessionID) revokedJTITTL))
    (herror : ∀ added err, (∀ entry ∈ added, isEviction entry.1 = true) →
      post (added ++ history) (.error err))
    (hok : post (evictionEntries sessions ++ history) (.ok ())) :
    Sat guard post (evictSessions deleteText revokeText sessions).run
      history := by
  induction sessions generalizing history with
  | nil => exact hok
  | cons session rest ih =>
      unfold evictSessions evictSession
      rw [sat_run_bind, sat_run_bind, sat_wrapError]
      apply sat_deleteSession
      · exact hdelete [] session rest rfl
      · intro cause err
        exact herror [_] _ (by simp [isEviction])
      change Sat guard _ (wrapError _ _).run _
      rw [sat_wrapError]
      apply sat_revoke
      · exact hrevoke [] session rest rfl
      · intro cause err
        exact herror [_, _] _ (by simp [isEviction])
      change Sat guard post (evictSessions deleteText revokeText rest).run _
      apply ih
      · intro done next others hrest
        have hguard := hdelete (session :: done) next others (by
          rw [hrest, List.cons_append])
        simpa [evictionEntries] using hguard
      · intro done next others hrest
        have hguard := hrevoke (session :: done) next others (by
          rw [hrest, List.cons_append])
        simpa [evictionEntries] using hguard
      · intro added err hadded
        have hpost := herror
          (added ++
            [⟨.redisSet (.revokedJTI session.sessionID) revokedJTITTL, .ok ()⟩,
              ⟨.sessionsDeleteItem session.sessionID, .ok ()⟩]) err (by
          intro entry hentry
          rcases List.mem_append.mp hentry with hnew | hold
          · exact hadded entry hnew
          · simp only [List.mem_cons, List.not_mem_nil, or_false] at hold
            rcases hold with rfl | rfl <;> rfl)
        simpa using hpost
      · simpa [evictionEntries] using hok

end Evictions

section Commits

variable {cfg : AuthServiceConfig} {phone otpCandidate deviceID : String}

/-- The end of both paths: mint an access token after the transaction. -/
theorem sat_mint_after_commit {userID sessionID : String}
    {items : List TransactWriteItem} {item : SessionItem} {older : History}
    (hput : putSessions items = [(sessionID, item)])
    (huser : item.userID = some userID)
    (result : MintResult → VerifyOTPResult)
    (hresult : ∀ minted, (result minted).sessionID = sessionID) :
    Sat (verifyGuard cfg phone otpCandidate deviceID) verifyPost
      (do
        let minted ← wrapError (wrapped "mint access token: %w")
          (mintAccessToken cfg userID sessionID)
        return result minted : Flow VerifyOTPResult).run
      (⟨.transactWriteItems items, .ok ()⟩ :: older) := by
  rw [sat_run_bind, sat_wrapError]
  apply sat_mintAccessToken
  · exact fun _ => trivial
  · exact fun _ => trivial
  · exact fun _ => trivial
  · rintro reached privateKey keyID claims ⟨key, kid, now, hclaims, hreached⟩
    obtain ⟨rfl, rfl⟩ : claims.subject = userID ∧
        claims.sessionID = sessionID := by
      rw [hclaims]
      exact ⟨rfl, rfl⟩
    exact ⟨items, item, older, hput, huser, key, kid, now, hclaims, hreached⟩
  · intro added err hadded hfailed
    exact Or.inr ⟨items, added, older, rfl, hadded, hfailed⟩
  · intro added minted hadded
    exact ⟨items, added, older, rfl, hadded, by
      rw [createdSessions, hput, hresult]
      rfl⟩

theorem Login.uncommitted_evictedEntries {login : Login}
    (hquiet : Quiet login.base) (phone : String)
    (evicted : List SessionRecord) :
    Uncommitted (login.evictedEntries phone evicted) := by
  have hbase := hquiet.uncommitted
  simp [Login.evictedEntries, Login.listedEntries, Login.listingEntries,
    foundEntries, commits, uncommitted_evictionEntries, hbase]

theorem sat_createLoginSession {login : Login}
    (haccepted : Accepted (hashPhone cfg phone) otpCandidate login.tried
      login.base) :
    Sat (verifyGuard cfg phone otpCandidate deviceID) verifyPost
      (createLoginSession cfg (hashPhone cfg phone)
        (fromOTPItem (hashPhone cfg phone) login.tried.item)
        (fromUserItem login.userID login.userItem) deviceID).run
      (login.evictedEntries phone (login.evicted cfg deviceID)) := by
  have hevicted := Login.uncommitted_evictedEntries haccepted.quiet phone
    (login.evicted cfg deviceID)
  unfold createLoginSession
  rw [sat_run_bind, sat_request]
  refine ⟨trivial, fun sessionID => ?_⟩
  dsimp only
  rw [sat_run_bind, sat_request]
  refine ⟨trivial, fun now => ?_⟩
  dsimp only
  rw [sat_run_bind, sat_wrapError]
  apply sat_generateRefreshToken
  · simp [verifyGuard, commits, hevicted]
  · intro cause err
    left
    simp [commits, hevicted]
  intro refreshToken
  dsimp only [Except.mapError]
  rw [sat_run_bind, sat_wrapError]
  apply sat_verifyOTPAndCreateSession
  · exact Or.inr ⟨login, ⟨sessionID, now, refreshToken⟩, haccepted, rfl, rfl⟩
  · intro cause err
    left
    simp [commits, hevicted]
  · apply sat_mint_after_commit rfl rfl
    intro minted
    rfl

theorem sat_evictListed {post : History → Except GoError Unit → Prop}
    {login : Login} {part : List SessionRecord}
    {deleteText revokeText : String} (first last : List SessionRecord)
    (haccepted : Accepted (hashPhone cfg phone) otpCandidate login.tried
      login.base)
    (hevicted : login.evicted cfg deviceID = first ++ (part ++ last))
    (herror : ∀ reached err, Uncommitted reached → post reached (.error err))
    (hok : post (login.evictedEntries phone (first ++ part)) (.ok ())) :
    Sat (verifyGuard cfg phone otpCandidate deviceID) post
      (evictSessions deleteText revokeText part).run
      (login.evictedEntries phone first) := by
  have hentries : ∀ done, evictionEntries done ++
      login.evictedEntries phone first =
        login.evictedEntries phone (first ++ done) := by
    intro done
    rw [Login.evictedEntries, Login.evictedEntries, evictionEntries_append,
      List.append_assoc]
  have hsplit : ∀ done session rest, part = done ++ session :: rest →
      login.evicted cfg deviceID =
        (first ++ done) ++ session :: (rest ++ last) := by
    intro done session rest hpart
    rw [hevicted, hpart]
    simp only [List.append_assoc, List.cons_append]
  apply sat_evictSessions
  · intro done session rest hpart
    rw [hentries]
    exact ⟨login, first ++ done, session, rest ++ last, rfl, haccepted,
      hsplit done session rest hpart, rfl⟩
  · intro done session rest hpart
    rw [hentries]
    exact Or.inr ⟨login, first ++ done, session, rest ++ last, rfl, rfl,
      haccepted, hsplit done session rest hpart, rfl⟩
  · intro added err hadded
    apply herror
    rw [uncommitted_append]
    exact ⟨fun entry hentry => commits_of_isEviction (hadded entry hentry),
      Login.uncommitted_evictedEntries haccepted.quiet phone first⟩
  · rw [hentries]
    exact hok

theorem sat_evict_and_login (login : Login)
    (haccepted : Accepted (hashPhone cfg phone) otpCandidate login.tried
      login.base) :
    Sat (verifyGuard cfg phone otpCandidate deviceID) verifyPost
      (do
        evictConflictingSessions (listedSessions login.rows) deviceID
        enforceSessionLimit cfg (listedSessions login.rows) deviceID
        createLoginSession cfg (hashPhone cfg phone)
          (fromOTPItem (hashPhone cfg phone) login.tried.item)
          (fromUserItem login.userID login.userItem) deviceID :
          Flow VerifyOTPResult).run
      (login.listedEntries phone) := by
  rw [sat_run_bind, evictConflictingSessions]
  apply sat_evictListed [] _ haccepted rfl
  · intro reached err hreached
    exact Or.inl hreached
  dsimp only
  rw [sat_run_bind, enforceSessionLimit]
  apply sat_evictListed _ [] haccepted
  · simp [Login.evicted]
  · intro reached err hreached
    exact Or.inl hreached
  · exact sat_createLoginSession haccepted

theorem sat_verifyOTPExistingUser {tried : Attempt} {base : History}
    {userID : String} {others : List String} {userItem : UserItem}
    (haccepted : Accepted (hashPhone cfg phone) otpCandidate tried base) :
    Sat (verifyGuard cfg phone otpCandidate deviceID) verifyPost
      (verifyOTPExistingUser cfg (hashPhone cfg phone)
        (fromOTPItem (hashPhone cfg phone) tried.item)
        (fromUserItem userID userItem) deviceID).run
      (foundEntries phone userID others userItem ++ base) := by
  have hbase := haccepted.quiet.uncommitted
  unfold verifyOTPExistingUser
  rw [sat_run_bind, sat_wrapError]
  apply sat_listByUser
  · trivial
  · intro now
    exact ⟨⟨tried, base, userID, others, userItem, now, []⟩, haccepted, rfl,
      rfl, rfl⟩
  · intro now cause err
    left
    simp [commits, foundEntries, hbase]
  · intro now rows
    exact sat_evict_and_login
      ⟨tried, base, userID, others, userItem, now, rows⟩ haccepted

theorem Accepted.extend {phoneHash : String} {tried : Attempt}
    {base : History}
    (haccepted : Accepted phoneHash otpCandidate tried base)
    (added : History) (hadded : Quiet added) :
    Accepted phoneHash otpCandidate tried (added ++ base) where
  usable := haccepted.usable
  compared := haccepted.compared.trans (List.suffix_append added base)
  quiet := quiet_append.mpr ⟨hadded, haccepted.quiet⟩

theorem quiet_of_isLookup {added : History}
    (hadded : ∀ entry ∈ added, isLookup entry.1 = true) : Quiet added :=
  fun entry hentry => changes_of_isLookup (hadded entry hentry)

/-- A lookup after acceptance, whose failure ends the call or continues with
an accepted history. -/
theorem sat_findByPhone_accepted
    {post : History → Except GoError UserRecord → Prop} {tried : Attempt}
    {base : History}
    (haccepted : Accepted (hashPhone cfg phone) otpCandidate tried base)
    (herror : ∀ reached err,
      Accepted (hashPhone cfg phone) otpCandidate tried reached →
        post reached (.error err))
    (hfound : ∀ userID others item,
      post (foundEntries phone userID others item ++ base)
        (.ok (fromUserItem userID item))) :
    Sat (verifyGuard cfg phone otpCandidate deviceID) post
      (findByPhone phone).run base := by
  apply sat_findByPhone
  · exact ⟨rfl, tried, haccepted⟩
  · intro reached
    trivial
  · intro reached userID
    trivial
  · intro added err hadded
    exact herror _ err (haccepted.extend added (quiet_of_isLookup hadded))
  · exact hfound

theorem sat_verifyOTPNewUser {tried : Attempt} {base : History}
    (haccepted : Accepted (hashPhone cfg phone) otpCandidate tried base) :
    Sat (verifyGuard cfg phone otpCandidate deviceID) verifyPost
      (verifyOTPNewUser cfg phone (hashPhone cfg phone)
        (fromOTPItem (hashPhone cfg phone) tried.item) deviceID).run base := by
  have hbase := haccepted.quiet.uncommitted
  unfold verifyOTPNewUser
  rw [sat_run_bind, sat_request]
  refine ⟨trivial, fun userID => ?_⟩
  dsimp only
  rw [sat_run_bind, sat_request]
  refine ⟨trivial, fun sessionID => ?_⟩
  dsimp only
  rw [sat_run_bind, sat_request]
  refine ⟨trivial, fun now => ?_⟩
  dsimp only
  rw [sat_run_bind, sat_wrapError]
  apply sat_generateRefreshToken
  · simp [verifyGuard, commits, hbase]
  · intro cause err
    left
    simp [commits, hbase]
  intro refreshToken
  dsimp only [Except.mapError]
  rw [sat_run_bind, sat_attempt]
  apply sat_verifyOTPAndCreateUser
  · exact Or.inl ⟨⟨tried, base, userID, sessionID, now, refreshToken⟩,
      haccepted, rfl, rfl⟩
  · intro cause err
    have hfailed := haccepted.extend
      [⟨.transactWriteItems (registrationItems (Registration.params cfg
          ⟨tried, base, userID, sessionID, now, refreshToken⟩ phone
          deviceID)), .error cause⟩,
        ⟨.randToken, .ok refreshToken⟩, ⟨.clockNow, now⟩,
        ⟨.uuidNewString, sessionID⟩, ⟨.uuidNewString, userID⟩]
      (by simp [changes])
    dsimp only
    split
    · rw [sat_run_bind, sat_wrapError]
      apply sat_findByPhone_accepted hfailed
      · intro reached err hreached
        exact Or.inl hreached.quiet.uncommitted
      · intro userID others item
        exact sat_verifyOTPExistingUser hfailed
    · exact Or.inl hfailed.quiet.uncommitted
  · apply sat_mint_after_commit rfl rfl
    intro minted
    rfl

/-- Every request of a verification is one that its guard describes. -/
theorem sat_verifyOTP :
    Sat (verifyGuard cfg phone otpCandidate deviceID) verifyPost
      (verifyOTP cfg phone otpCandidate deviceID).run [] := by
  unfold verifyOTP
  split
  · exact Or.inl uncommitted_nil
  split
  · exact Or.inl uncommitted_nil
  rw [sat_run_bind]
  apply sat_checkVerifyRateLimits
  · intro reached err hreached
    exact Or.inl hreached
  intro count hcount
  dsimp only
  rw [sat_run_bind]
  apply sat_validateOTPRecord hcount
  · intro reached err hreached
    exact Or.inl hreached
  intro tried husable
  have haccepted : Accepted (hashPhone cfg phone) otpCandidate tried
      (tried.comparedEntries (hashPhone cfg phone) otpCandidate true) :=
    { usable := husable
      compared := List.suffix_refl _
      quiet := by
        simp [Attempt.comparedEntries, Attempt.readEntries, limitEntries,
          changes] }
  dsimp only
  rw [sat_run_bind, sat_attempt]
  apply sat_findByPhone_accepted haccepted
  · intro reached err hreached
    dsimp only
    split
    · exact sat_verifyOTPNewUser hreached
    · exact Or.inl hreached.quiet.uncommitted
  · intro userID others item
    exact sat_verifyOTPExistingUser haccepted

end Commits

end MessagingPlatform.VerifyRules
