import MessagingPlatform.Adapter.Transactions
import MessagingPlatform.App.FlowSteps

/-!
# Verifications in one step

What `VerifyOTP` does after its checks when nothing happens in between and no
request fails: it registers a phone that the index does not list and logs in one
that it lists.  Both always succeed, and what they return and leave behind is
determined but for the values of the random sources and the order of the listed
sessions.
-/

namespace MessagingPlatform.VerifySteps

open Program
open OneStep
open Instants
open Errors
open Records
open Identifiers
open Primitives
open Tables
open Operations
open Effects
open Stores
open StoreRules
open AllowedRequests
open StoreSteps
open Transactions
open Flows
open FlowSteps

variable {cfg : AuthServiceConfig} {store after : Store}
variable {phone phoneHash deviceID : String} {item : OTPItem}

section Evictions

/-- The store after the eviction of a session. -/
def evictOne (store : Store) (session : SessionRecord) : Store :=
  Store.setKey
    { store with sessions := store.sessions.erase session.sessionID }
    (.revokedJTI session.sessionID) revokedJTITTL

def evicted (store : Store) (sessions : List SessionRecord) : Store :=
  sessions.foldl evictOne store

theorem evicted_cons (session : SessionRecord) (rest : List SessionRecord) :
    evicted store (session :: rest) = evicted (evictOne store session) rest :=
  rfl

theorem evicted_append (first second : List SessionRecord) :
    evicted store (first ++ second) = evicted (evicted store first) second :=
  List.foldl_append

theorem certain_evictSession (deleteText revokeText : String)
    (session : SessionRecord) :
    Certain (steps cfg) (evictSession deleteText revokeText session).run store
      (.ok ()) (evictOne store session) :=
  (certain_wrapError _ (certain_deleteSession _)).run_bind_certain
    (certain_wrapError _ (certain_revoke _))

theorem certain_evictSessions (deleteText revokeText : String)
    (sessions : List SessionRecord) :
    Certain (steps cfg) (evictSessions deleteText revokeText sessions).run
      store (.ok ()) (evicted store sessions) := by
  induction sessions generalizing store with
  | nil => exact certain_run_pure
  | cons session rest ih =>
      exact (certain_evictSession deleteText revokeText
        session).run_bind_certain ih

/-- Evictions keep what depends on neither sessions nor Redis. -/
theorem keeps_evicted {Field : Type} {field : Store → Field}
    (hfield : ∀ (store : Store) sessions redis,
      field { store with sessions := sessions, redis := redis } = field store)
    (sessions : List SessionRecord) :
    field (evicted store sessions) = field store := by
  induction sessions generalizing store with
  | nil => rfl
  | cons session rest ih =>
      rw [evicted_cons, ih]
      exact hfield store _ _

theorem lookup_evicted (sessions : List SessionRecord) (key : String) :
    (evicted store sessions).sessions.lookup key =
      if key ∈ sessions.map (·.sessionID) then none
      else store.sessions.lookup key := by
  induction sessions generalizing store with
  | nil => simp [evicted]
  | cons session rest ih =>
      rw [evicted_cons, ih, List.map_cons]
      by_cases hrest : key ∈ rest.map (·.sessionID)
      · rw [if_pos hrest, if_pos (List.mem_cons_of_mem _ hrest)]
      · rw [if_neg hrest]
        by_cases hkey : key = session.sessionID
        · subst hkey
          rw [if_pos List.mem_cons_self]
          exact AList.lookup_erase _ _
        · rw [if_neg (by simp [hkey, hrest])]
          exact AList.lookup_erase_ne hkey

end Evictions

section Draws

/-- Values that the random sources can hand out one after another. -/
structure Drawn (issued uuids : List String) (token : String) : Prop where
  shape : ∀ uuid ∈ uuids, isUUIDText uuid = true
  fresh : ∀ value ∈ token :: uuids, value ∉ issued
  nodup : (token :: uuids).Nodup

theorem Drawn.tail {issued uuids : List String} {uuid token : String}
    (hdrawn : Drawn issued (uuid :: uuids) token) :
    Drawn issued uuids token := by
  obtain ⟨hshape, hfresh, hnodup⟩ := hdrawn
  constructor <;> grind

theorem drawn_rotation_iff {issued : List String} {jti token : String} :
    Drawn issued [jti] token ↔
      token ∉ issued ∧ isUUIDText jti = true ∧ jti ∉ token :: issued := by
  constructor
  · rintro ⟨hshape, hfresh, hnodup⟩
    grind
  · rintro ⟨htoken, hjti, hnew⟩
    constructor <;> grind

theorem drawn_login_iff {issued : List String}
    {sessionID jti token : String} :
    Drawn issued [sessionID, jti] token ↔
      (isUUIDText sessionID = true ∧ sessionID ∉ issued) ∧
      token ∉ sessionID :: issued ∧
      isUUIDText jti = true ∧ jti ∉ token :: sessionID :: issued := by
  constructor
  · rintro ⟨hshape, hfresh, hnodup⟩
    grind
  · rintro ⟨⟨hshape, hfresh⟩, htoken, hjti, hnew⟩
    constructor <;> grind

theorem drawn_registration_iff {issued : List String}
    {userID sessionID jti token : String} :
    Drawn issued [userID, sessionID, jti] token ↔
      (isUUIDText userID = true ∧ userID ∉ issued) ∧
      (isUUIDText sessionID = true ∧ sessionID ∉ userID :: issued) ∧
      token ∉ sessionID :: userID :: issued ∧
      isUUIDText jti = true ∧
      jti ∉ token :: sessionID :: userID :: issued := by
  constructor
  · rintro ⟨hshape, hfresh, hnodup⟩
    grind
  · rintro ⟨⟨huser, hfresh⟩, ⟨hshape, hsession⟩, htoken, hjti, hnew⟩
    constructor <;> grind

/-- Fresh identifiers are no keys of the users and sessions tables. -/
def KeysIssued (store : Store) : Prop :=
  ∀ uuid, isUUIDText uuid = true → uuid ∉ store.issued →
    store.users.lookup uuid = none ∧ store.sessions.lookup uuid = none

end Draws

section Logins

/-- The parameters of the transaction of a login. -/
def loginParams (cfg : AuthServiceConfig) (phoneHash : String)
    (item : OTPItem) (userID deviceID sessionID refreshToken : String)
    (now : Time) : LoginParams where
  phoneHash := phoneHash
  otpExpiresAt := item.expiresAt
  otpMAC := item.otpMAC
  sessionID := sessionID
  userID := userID
  deviceID := deviceID
  refreshTokenHash := hashRefreshToken cfg refreshToken
  createdAt := format now
  sessionExpiresAt := format (now + refreshTokenLifetime)
  sessionTTL := unix (now + refreshTokenLifetime)

/-- The store after a login. -/
def loggedIn (cfg : AuthServiceConfig) (store : Store) (phoneHash : String)
    (item : OTPItem) (userID deviceID sessionID refreshToken jti : String) :
    Store :=
  { store with
    issued := jti :: refreshToken :: sessionID :: store.issued
    otpRequests := store.otpRequests.insert phoneHash (consumed item)
    sessions := store.sessions.insert sessionID
      (loginSession (loginParams cfg phoneHash item userID deviceID sessionID
        refreshToken store.clock)) }

def loginResult (cfg : AuthServiceConfig) (user : UserRecord)
    (sessionID refreshToken jti : String) (now : Time) : VerifyOTPResult where
  user := user
  sessionID := sessionID
  accessToken := (mintedToken cfg user.userID sessionID jti now).token
  refreshToken := refreshToken
  isNewUser := false
  accessTokenExpiry := now + accessTokenLifetime

/-- The transaction of a login with an identifier not yet in use. -/
theorem certain_loginItems {params : LoginParams}
    (hstored : store.otpRequests.lookup params.phoneHash = some item)
    (hpending : item.status = .pending)
    (hexpiry : params.otpExpiresAt = item.expiresAt)
    (hmac : params.otpMAC = item.otpMAC)
    (hsession : store.sessions.lookup params.sessionID = none) :
    Certain (steps cfg) (verifyOTPAndCreateSession params).run store (.ok ())
      { store with
        otpRequests := store.otpRequests.insert params.phoneHash
          (consumed item)
        sessions := store.sessions.insert params.sessionID
          (loginSession params) } := by
  have hholds : ∀ write ∈ loginItems params, write.holds store = true := by
    simp [loginItems, buildOTPVerifyUpdate, buildSessionPut,
      TransactWriteItem.holds, hstored, hpending, hexpiry, hmac, hsession]
  obtain ⟨⟨found, hfound, hafter⟩, -⟩ := login_committed hholds
  have hsame := hfound.stored
  rw [hstored, Option.some.injEq] at hsame
  rw [hsame, ← hafter]
  exact certain_verifyOTPAndCreateSession hholds

/-- A login always succeeds. -/
theorem returns_createLoginSession {user : UserRecord}
    (hstored : store.otpRequests.lookup phoneHash = some item)
    (hpending : item.status = .pending) (hkeys : KeysIssued store) :
    Returns cfg (createLoginSession cfg phoneHash (fromOTPItem phoneHash item)
        user deviceID) store fun result after =>
      ∃ sessionID refreshToken jti,
        Drawn store.issued [sessionID, jti] refreshToken ∧
        result = loginResult cfg user sessionID refreshToken jti store.clock ∧
        after = loggedIn cfg store phoneHash item user.userID deviceID
          sessionID refreshToken jti := by
  unfold createLoginSession
  refine (returns_uuidNewString.bind (fun sessionID middle result after =>
    ∃ refreshToken jti, refreshToken ∉ middle.issued ∧
      isUUIDText jti = true ∧ jti ∉ refreshToken :: middle.issued ∧
      result = loginResult cfg user sessionID refreshToken jti store.clock ∧
      after = loggedIn cfg store phoneHash item user.userID deviceID sessionID
        refreshToken jti) ?_).congr ?_
  · rintro sessionID middle ⟨hshape, hfresh, rfl⟩
    refine Returns.of_certain (certain_request fun _ => rfl) ?_
    refine (returns_generateRefreshToken.wrapError.bind
      (fun refreshToken drawn result after => ∃ jti, isUUIDText jti = true ∧
        jti ∉ drawn.issued ∧
        result = loginResult cfg user sessionID refreshToken jti store.clock ∧
        after = loggedIn cfg store phoneHash item user.userID deviceID
          sessionID refreshToken jti) ?_).congr ?_
    · rintro refreshToken drawn ⟨htoken, rfl⟩
      refine Returns.of_certain (certain_wrapError _ (certain_loginItems
        hstored hpending rfl rfl (hkeys sessionID hshape hfresh).2)) ?_
      refine ((returns_mintAccessToken _ _).wrapError.bind
        (fun minted last result after =>
          result = { user := user
                     sessionID := sessionID
                     accessToken := minted.token
                     refreshToken := refreshToken
                     isNewUser := false
                     accessTokenExpiry := minted.expiresAt } ∧
          after = last) fun minted last _ => returns_pure _).congr ?_
      intro result after
      constructor
      · rintro ⟨minted, last, ⟨jti, hjti, hnew, rfl, rfl⟩, rfl, rfl⟩
        exact ⟨jti, hjti, hnew, rfl, rfl⟩
      · rintro ⟨jti, hjti, hnew, rfl, rfl⟩
        exact ⟨_, _, ⟨jti, hjti, hnew, rfl, rfl⟩, rfl, rfl⟩
    · intro result after
      constructor
      · rintro ⟨refreshToken, drawn, ⟨htoken, rfl⟩, jti, hjti, hnew, hrest⟩
        exact ⟨refreshToken, jti, htoken, hjti, hnew, hrest⟩
      · rintro ⟨refreshToken, jti, htoken, hjti, hnew, hrest⟩
        exact ⟨refreshToken, _, ⟨htoken, rfl⟩, jti, hjti, hnew, hrest⟩
  · intro result after
    constructor
    · rintro ⟨sessionID, middle, ⟨hshape, hfresh, rfl⟩, refreshToken, jti,
        htoken, hjti, hnew, hrest⟩
      exact ⟨sessionID, refreshToken, jti, drawn_login_iff.mpr
        ⟨⟨hshape, hfresh⟩, htoken, hjti, hnew⟩, hrest⟩
    · rintro ⟨sessionID, refreshToken, jti, hdrawn, hrest⟩
      obtain ⟨⟨hshape, hfresh⟩, htoken, hjti, hnew⟩ :=
        drawn_login_iff.mp hdrawn
      exact ⟨sessionID, _, ⟨hshape, hfresh, rfl⟩, refreshToken, jti, htoken,
        hjti, hnew, hrest⟩

end Logins

section ExistingUsers

/-- The sessions that a login evicts, those of its own device first. -/
def evictions (cfg : AuthServiceConfig) (sessions : List SessionRecord)
    (deviceID : String) : List SessionRecord :=
  conflictingSessions sessions deviceID ++ excessSessions cfg sessions deviceID

theorem certain_evictions (sessions : List SessionRecord) {B : Type}
    {continueWith : Flow B} {finals : B → Store → Prop}
    (hcontinue : Returns cfg continueWith
      (evicted store (evictions cfg sessions deviceID)) finals) :
    Returns cfg (do
      evictConflictingSessions sessions deviceID
      enforceSessionLimit cfg sessions deviceID
      continueWith) store finals := by
  rw [evictions, evicted_append] at hcontinue
  exact Returns.of_certain (certain_evictSessions _ _ _)
    (Returns.of_certain (certain_evictSessions _ _ _) hcontinue)

theorem keysIssued_evicted (hkeys : KeysIssued store)
    (sessions : List SessionRecord) : KeysIssued (evicted store sessions) := by
  intro uuid hshape hfresh
  have hissued : (evicted store sessions).issued = store.issued :=
    keeps_evicted (fun _ _ _ => rfl) sessions
  have husers : (evicted store sessions).users = store.users :=
    keeps_evicted (fun _ _ _ => rfl) sessions
  rw [hissued] at hfresh
  rw [husers, lookup_evicted]
  refine ⟨(hkeys uuid hshape hfresh).1, ?_⟩
  split
  · rfl
  · exact (hkeys uuid hshape hfresh).2

/-- The login of a user that was found always succeeds. -/
theorem returns_verifyOTPExistingUser {user : UserRecord}
    (hstored : store.otpRequests.lookup phoneHash = some item)
    (hpending : item.status = .pending) (hkeys : KeysIssued store) :
    Returns cfg (verifyOTPExistingUser cfg phoneHash
        (fromOTPItem phoneHash item) user deviceID) store
      fun result after => ∃ keys sessionID refreshToken jti,
        keys.Perm (store.activeKeys user.userID (format store.clock)) ∧
        Drawn store.issued [sessionID, jti] refreshToken ∧
        result = loginResult cfg user sessionID refreshToken jti store.clock ∧
        after = loggedIn cfg (evicted store
            (evictions cfg (indexedRecords store keys) deviceID)) phoneHash
          item user.userID deviceID sessionID refreshToken jti := by
  unfold verifyOTPExistingUser
  refine ((returns_listByUser user.userID).wrapError.bind
    (fun sessions _ result after => ∃ sessionID refreshToken jti,
      Drawn store.issued [sessionID, jti] refreshToken ∧
      result = loginResult cfg user sessionID refreshToken jti store.clock ∧
      after = loggedIn cfg (evicted store (evictions cfg sessions deviceID))
        phoneHash item user.userID deviceID sessionID refreshToken jti)
    ?_).congr ?_
  · rintro sessions middle ⟨rfl, -⟩
    have hrecords : (evicted middle
        (evictions cfg sessions deviceID)).otpRequests = middle.otpRequests :=
      keeps_evicted (fun _ _ _ => rfl) _
    have hissued : (evicted middle
        (evictions cfg sessions deviceID)).issued = middle.issued :=
      keeps_evicted (fun _ _ _ => rfl) _
    have hclock : (evicted middle
        (evictions cfg sessions deviceID)).clock = middle.clock :=
      keeps_evicted (fun _ _ _ => rfl) _
    refine certain_evictions sessions ?_
    rw [← hissued, ← hclock]
    exact returns_createLoginSession (hrecords ▸ hstored) hpending
      (keysIssued_evicted hkeys (evictions cfg sessions deviceID))
  · intro result after
    constructor
    · rintro ⟨sessions, middle, ⟨rfl, keys, hperm, rfl⟩, sessionID,
        refreshToken, jti, hrest⟩
      exact ⟨keys, sessionID, refreshToken, jti, hperm, hrest⟩
    · rintro ⟨keys, sessionID, refreshToken, jti, hperm, hrest⟩
      exact ⟨_, store, ⟨rfl, keys, hperm, rfl⟩, sessionID, refreshToken, jti,
        hrest⟩

end ExistingUsers

section NewUsers

/-- The parameters of the transaction of a registration. -/
def registrationParams (cfg : AuthServiceConfig) (phone phoneHash : String)
    (item : OTPItem) (userID deviceID sessionID refreshToken : String)
    (now : Time) : RegistrationParams where
  phoneHash := phoneHash
  otpExpiresAt := item.expiresAt
  otpMAC := item.otpMAC
  userID := userID
  phoneNumber := phone
  now := format now
  sessionID := sessionID
  deviceID := deviceID
  refreshTokenHash := hashRefreshToken cfg refreshToken
  sessionExpiresAt := format (now + refreshTokenLifetime)
  sessionTTL := unix (now + refreshTokenLifetime)

/-- The store after a registration. -/
def registered (cfg : AuthServiceConfig) (store : Store)
    (phone phoneHash : String) (item : OTPItem)
    (userID deviceID sessionID refreshToken jti : String) : Store :=
  { store with
    issued := jti :: refreshToken :: sessionID :: userID :: store.issued
    otpRequests := store.otpRequests.insert phoneHash (consumed item)
    users := (store.users.insert userID
        (userAttributes phone (format store.clock))).insert
      (phoneSentinelKey phone) (sentinelAttributes phone userID)
    sessions := store.sessions.insert sessionID
      (registrationSession (registrationParams cfg phone phoneHash item userID
        deviceID sessionID refreshToken store.clock)) }

def registrationResult (cfg : AuthServiceConfig) (phone : String)
    (userID sessionID refreshToken jti : String) (now : Time) :
    VerifyOTPResult where
  user := ⟨userID, phone, "", format now, format now⟩
  sessionID := sessionID
  accessToken := (mintedToken cfg userID sessionID jti now).token
  refreshToken := refreshToken
  isNewUser := true
  accessTokenExpiry := now + accessTokenLifetime

/-- The transaction of a registration with identifiers not yet in use, for a
phone that is not reserved. -/
theorem certain_registrationItems {params : RegistrationParams}
    (hstored : store.otpRequests.lookup params.phoneHash = some item)
    (hpending : item.status = .pending)
    (hexpiry : params.otpExpiresAt = item.expiresAt)
    (hmac : params.otpMAC = item.otpMAC)
    (huser : store.users.lookup params.userID = none)
    (hsentinel : store.users.lookup (phoneSentinelKey params.phoneNumber) =
      none)
    (hsession : store.sessions.lookup params.sessionID = none) :
    Certain (steps cfg) (verifyOTPAndCreateUser params).run store (.ok ())
      { store with
        otpRequests := store.otpRequests.insert params.phoneHash
          (consumed item)
        users := (store.users.insert params.userID
            (userAttributes params.phoneNumber params.now)).insert
          (phoneSentinelKey params.phoneNumber)
          (sentinelAttributes params.phoneNumber params.userID)
        sessions := store.sessions.insert params.sessionID
          (registrationSession params) } := by
  have hholds : ∀ write ∈ registrationItems params,
      write.holds store = true := by
    simp [registrationItems, buildOTPVerifyUpdate, buildUserPut,
      buildPhoneSentinelPut, buildSessionPut, TransactWriteItem.holds, hstored,
      hpending, hexpiry, hmac, huser, hsentinel, hsession]
  obtain ⟨⟨found, hfound, hafter⟩, -⟩ := registration_committed hholds
  have hsame := hfound.stored
  rw [hstored, Option.some.injEq] at hsame
  rw [hsame, ← hafter]
  exact certain_verifyOTPAndCreateUser hholds

/-- A registration of a phone that is not reserved always succeeds. -/
theorem returns_verifyOTPNewUser
    (hstored : store.otpRequests.lookup phoneHash = some item)
    (hpending : item.status = .pending) (hkeys : KeysIssued store)
    (hsentinel : store.users.lookup (phoneSentinelKey phone) = none) :
    Returns cfg (verifyOTPNewUser cfg phone phoneHash
        (fromOTPItem phoneHash item) deviceID) store
      fun result after => ∃ userID sessionID refreshToken jti,
        Drawn store.issued [userID, sessionID, jti] refreshToken ∧
        result = registrationResult cfg phone userID sessionID refreshToken
          jti store.clock ∧
        after = registered cfg store phone phoneHash item userID deviceID
          sessionID refreshToken jti := by
  unfold verifyOTPNewUser
  refine (returns_uuidNewString.bind (fun userID middle result after =>
    ∃ sessionID refreshToken jti,
      (isUUIDText sessionID = true ∧ sessionID ∉ middle.issued) ∧
      refreshToken ∉ sessionID :: middle.issued ∧ isUUIDText jti = true ∧
      jti ∉ refreshToken :: sessionID :: middle.issued ∧
      result = registrationResult cfg phone userID sessionID refreshToken jti
        store.clock ∧
      after = registered cfg store phone phoneHash item userID deviceID
        sessionID refreshToken jti) ?_).congr ?_
  · rintro userID middle ⟨huser, hfresh, rfl⟩
    refine (returns_uuidNewString.bind (fun sessionID middle result after =>
      ∃ refreshToken jti, refreshToken ∉ middle.issued ∧
        isUUIDText jti = true ∧ jti ∉ refreshToken :: middle.issued ∧
        result = registrationResult cfg phone userID sessionID refreshToken
          jti store.clock ∧
        after = registered cfg store phone phoneHash item userID deviceID
          sessionID refreshToken jti) ?_).congr ?_
    · rintro sessionID middle ⟨hshape, hnew, rfl⟩
      have hunissued : sessionID ∉ store.issued :=
        fun hmem => hnew (List.mem_cons_of_mem _ hmem)
      refine Returns.of_certain (certain_request fun _ => rfl) ?_
      refine (returns_generateRefreshToken.wrapError.bind
        (fun refreshToken drawn result after => ∃ jti,
          isUUIDText jti = true ∧ jti ∉ drawn.issued ∧
          result = registrationResult cfg phone userID sessionID refreshToken
            jti store.clock ∧
          after = registered cfg store phone phoneHash item userID deviceID
            sessionID refreshToken jti) ?_).congr ?_
      · rintro refreshToken drawn ⟨htoken, rfl⟩
        refine Returns.of_certain (certain_attempt (certain_registrationItems
          hstored hpending rfl rfl (hkeys userID huser hfresh).1 hsentinel
          (hkeys sessionID hshape hunissued).2)) ?_
        refine ((returns_mintAccessToken _ _).wrapError.bind
          (fun minted last result after =>
            result = { user := ⟨userID, phone, "", format store.clock,
                         format store.clock⟩
                       sessionID := sessionID
                       accessToken := minted.token
                       refreshToken := refreshToken
                       isNewUser := true
                       accessTokenExpiry := minted.expiresAt } ∧
            after = last) fun minted last _ => returns_pure _).congr ?_
        intro result after
        constructor
        · rintro ⟨minted, last, ⟨jti, hjti, hlast, rfl, rfl⟩, rfl, rfl⟩
          exact ⟨jti, hjti, hlast, rfl, rfl⟩
        · rintro ⟨jti, hjti, hlast, rfl, rfl⟩
          exact ⟨_, _, ⟨jti, hjti, hlast, rfl, rfl⟩, rfl, rfl⟩
      · intro result after
        constructor
        · rintro ⟨refreshToken, drawn, ⟨htoken, rfl⟩, jti, hjti, hlast, hrest⟩
          exact ⟨refreshToken, jti, htoken, hjti, hlast, hrest⟩
        · rintro ⟨refreshToken, jti, htoken, hjti, hlast, hrest⟩
          exact ⟨refreshToken, _, ⟨htoken, rfl⟩, jti, hjti, hlast, hrest⟩
    · intro result after
      constructor
      · rintro ⟨sessionID, middle, ⟨hshape, hnew, rfl⟩, refreshToken, jti,
          hrest⟩
        exact ⟨sessionID, refreshToken, jti, ⟨hshape, hnew⟩, hrest⟩
      · rintro ⟨sessionID, refreshToken, jti, ⟨hshape, hnew⟩, hrest⟩
        exact ⟨sessionID, _, ⟨hshape, hnew, rfl⟩, refreshToken, jti, hrest⟩
  · intro result after
    constructor
    · rintro ⟨userID, middle, ⟨huser, hfresh, rfl⟩, sessionID, refreshToken,
        jti, hsession, htoken, hjti, hnew, hrest⟩
      exact ⟨userID, sessionID, refreshToken, jti, drawn_registration_iff.mpr
        ⟨⟨huser, hfresh⟩, hsession, htoken, hjti, hnew⟩, hrest⟩
    · rintro ⟨userID, sessionID, refreshToken, jti, hdrawn, hrest⟩
      obtain ⟨⟨huser, hfresh⟩, hsession, htoken, hjti, hnew⟩ :=
        drawn_registration_iff.mp hdrawn
      exact ⟨userID, _, ⟨huser, hfresh, rfl⟩, sessionID, refreshToken, jti,
        hsession, htoken, hjti, hnew, hrest⟩

end NewUsers

section Verifications

variable {otpCandidate : String}

/-- The verify counter of a phone after one more attempt, and the store. -/
def verifyCounted (store : Store) (phoneHash : String) : ℕ × Store :=
  store.incrementCounter (.otpVerifyPhone phoneHash)
    (wholeSeconds otpRateLimitWindow)

/-- What lets a verification of the phone pass the limits. -/
def WithinLimits (store : Store) (phoneHash : String) : Prop :=
  (verifyCounted store phoneHash).1 ≤ maxOTPVerifyAttempts ∧
    store.liveEntry (.otpLockoutPhone phoneHash) = none

instance : Decidable (WithinLimits store phoneHash) :=
  inferInstanceAs (Decidable (_ ∧ _))

theorem liveEntry_verifyCounted :
    (verifyCounted store phoneHash).2.liveEntry (.otpLockoutPhone phoneHash) =
      store.liveEntry (.otpLockoutPhone phoneHash) := by
  have hredis : (verifyCounted store phoneHash).2.redis
      (.otpLockoutPhone phoneHash) =
        store.redis (.otpLockoutPhone phoneHash) :=
    Store.redis_incrementCounter_ne store (by simp) _
  rw [Store.liveEntry, hredis]
  rfl

theorem certain_checkVerifyRateLimits (hlimits : WithinLimits store phoneHash) :
    Certain (steps cfg) (checkVerifyRateLimits phoneHash).run store (.ok ())
      (verifyCounted store phoneHash).2 := by
  obtain ⟨hcount, hunlocked⟩ := hlimits
  have hcounted : Certain (steps cfg) (wrapError
      (unavailable "check verify rate limit: %w")
      (checkAndIncrement (.otpVerifyPhone phoneHash) maxOTPVerifyAttempts
        (wholeSeconds otpRateLimitWindow))).run store (.ok true)
      (verifyCounted store phoneHash).2 := by
    rw [← decide_eq_true hcount]
    exact certain_wrapError _ (certain_checkAndIncrement _ _ _)
  have hlocked : Certain (steps cfg) (wrapError
      (unavailable "check lockout: %w")
      (checkLockout (.otpLockoutPhone phoneHash))).run
      (verifyCounted store phoneHash).2 (.ok false)
      (verifyCounted store phoneHash).2 := by
    have hfree : ((verifyCounted store phoneHash).2.liveEntry
        (.otpLockoutPhone phoneHash)).isSome = false := by
      rw [liveEntry_verifyCounted, hunlocked]
      rfl
    rw [← hfree]
    exact certain_wrapError _ (certain_checkLockout _)
  exact hcounted.run_bind_certain (hlocked.run_bind_certain certain_run_pure)

/-- Only a verification within the limits passes them. -/
theorem withinLimits_of_ends {middle : Store}
    (hends : Ends (steps cfg) (checkVerifyRateLimits phoneHash).run store
      (.ok ()) middle) :
    WithinLimits store phoneHash ∧
      middle = (verifyCounted store phoneHash).2 := by
  unfold checkVerifyRateLimits at hends
  rw [(certain_wrapError _ (certain_checkAndIncrement _ _ _)).run_bind] at hends
  split at hends
  · cases ((certain_run_throw _ _).mp hends).1
  next hallowed =>
  rw [(certain_wrapError _ (certain_checkLockout _)).run_bind] at hends
  split at hends
  · cases ((certain_run_throw _ _).mp hends).1
  next hunlocked =>
  obtain ⟨-, rfl⟩ := (certain_run_pure _ _).mp hends
  rw [Bool.not_eq_true, Option.isSome_eq_false_iff,
    Option.isNone_iff_eq_none] at hunlocked
  exact ⟨⟨by simpa [verifyCounted] using hallowed,
    liveEntry_verifyCounted.symm.trans hunlocked⟩, rfl⟩

/-- What makes a verification succeed. -/
structure Acceptable (cfg : AuthServiceConfig) (store : Store)
    (phone otpCandidate deviceID : String) (item : OTPItem) : Prop where
  wellFormed : matchesE164 phone = true
  device : deviceID ≠ ""
  limits : WithinLimits store (hashPhone cfg phone)
  opened : Open store (hashPhone cfg phone) item
  matched : Matches cfg otpCandidate (hashPhone cfg phone) item

/-- The counter is not in a table. -/
theorem open_verifyCounted :
    Open (verifyCounted store phoneHash).2 phoneHash item ↔
      Open store phoneHash item :=
  ⟨fun hopen => ⟨hopen.stored, hopen.pending, hopen.attempts,
    hopen.unexpired⟩, fun hopen => ⟨hopen.stored, hopen.pending,
    hopen.attempts, hopen.unexpired⟩⟩

/-- `VerifyOTP` after its checks. -/
def completeVerification (cfg : AuthServiceConfig) (phone deviceID : String)
    (record : OTPRecord) : Flow VerifyOTPResult := do
  match ← attempt (findByPhone phone) with
  | .error err =>
      if errorsIs .errNotFound err then
        verifyOTPNewUser cfg phone (hashPhone cfg phone) record deviceID
      else throw (wrapped "find user by phone: %w" err)
  | .ok user =>
      verifyOTPExistingUser cfg (hashPhone cfg phone) record user deviceID

/-- `VerifyOTP` once the phone and the device are well formed. -/
theorem verifyOTP_eq (hphone : matchesE164 phone = true)
    (hdevice : deviceID ≠ "") :
    verifyOTP cfg phone otpCandidate deviceID =
      (checkVerifyRateLimits (hashPhone cfg phone) >>= fun _ =>
        validateOTPRecord (hashPhone cfg phone) otpCandidate >>= fun record =>
          completeVerification cfg phone deviceID record) := by
  simp only [verifyOTP, newPhoneNumber_of_matches hphone, hdevice, if_false]
  rfl

theorem certain_verifyOTP_of_wrong (hphone : matchesE164 phone = true)
    (hdevice : deviceID ≠ "")
    (hlimits : WithinLimits store (hashPhone cfg phone))
    (hopen : Open store (hashPhone cfg phone) item)
    (hwrong : ¬ Matches cfg otpCandidate (hashPhone cfg phone) item) :
    Certain (steps cfg) (verifyOTP cfg phone otpCandidate deviceID).run store
      (.error (.sentinel .errInvalidOTP))
      { (verifyCounted store (hashPhone cfg phone)).2 with
        otpRequests := store.otpRequests.insert (hashPhone cfg phone)
          { item with attemptCount := item.attemptCount + 1 } } := by
  rw [verifyOTP_eq hphone hdevice]
  exact (certain_checkVerifyRateLimits hlimits).run_bind_certain
    (certain_validateOTPRecord_of_wrong (open_verifyCounted.mpr hopen)
      hwrong).run_bind_error

/-- Only an acceptable verification succeeds. -/
theorem acceptable_of_ends {result : VerifyOTPResult}
    (hends : Ends (steps cfg) (verifyOTP cfg phone otpCandidate deviceID).run
      store (.ok result) after) :
    ∃ item, Acceptable cfg store phone otpCandidate deviceID item := by
  by_cases hphone : matchesE164 phone = true
  · by_cases hdevice : deviceID = ""
    · simp only [verifyOTP, newPhoneNumber_of_matches hphone, hdevice,
        if_true] at hends
      cases ((certain_run_throw _ _).mp hends).1
    · rw [verifyOTP_eq hphone hdevice] at hends
      obtain ⟨done, counted, hcounted, hrest⟩ := ends_run_bind_ok.mp hends
      obtain ⟨hlimits, rfl⟩ := withinLimits_of_ends hcounted
      obtain ⟨record, validated, hvalidated, -⟩ := ends_run_bind_ok.mp hrest
      obtain ⟨-, item, hopen, hmatches, -⟩ :=
        open_of_validateOTPRecord hvalidated
      exact ⟨item, hphone, hdevice, hlimits, open_verifyCounted.mp hopen,
        hmatches⟩
  · unfold verifyOTP at hends
    split at hends
    · cases ((certain_run_throw _ _).mp hends).1
    · next hvalid => exact (hphone (matches_of_newPhoneNumber hvalid)).elim

/-- A verification that has succeeded: its record is consumed, and one session
was added. -/
structure LoggedIn (cfg : AuthServiceConfig) (before after : Store)
    (phoneHash deviceID : String) (item : OTPItem)
    (result : VerifyOTPResult) : Prop where
  record : after.otpRequests =
    before.otpRequests.insert phoneHash (consumed item)
  new : before.sessions.lookup result.sessionID = none
  session : ∃ created, after.sessions.lookup result.sessionID = some created ∧
    created.deviceID = some deviceID ∧ created.tokenGeneration = 1 ∧
    created.refreshTokenHash = hashRefreshToken cfg result.refreshToken
  others : ∀ key, key ≠ result.sessionID →
    after.sessions.lookup key = none ∨
      after.sessions.lookup key = before.sessions.lookup key

theorem loggedIn_registered {userID sessionID refreshToken jti : String}
    (hkeys : KeysIssued store)
    (hdrawn : Drawn store.issued [userID, sessionID, jti] refreshToken) :
    LoggedIn cfg store (registered cfg store phone phoneHash item userID
        deviceID sessionID refreshToken jti) phoneHash deviceID item
      (registrationResult cfg phone userID sessionID refreshToken jti
        store.clock) where
  record := rfl
  new := (hkeys sessionID (hdrawn.shape _ (by simp))
    (hdrawn.fresh _ (by simp))).2
  session := ⟨_, AList.lookup_insert _, rfl, rfl, rfl⟩
  others := fun _ hkey => .inr (AList.lookup_insert_ne hkey)

theorem loggedIn_evicted {user : UserRecord}
    {sessionID refreshToken jti : String} (hkeys : KeysIssued store)
    (hdrawn : Drawn store.issued [sessionID, jti] refreshToken)
    (sessions : List SessionRecord) :
    LoggedIn cfg store (loggedIn cfg (evicted store sessions) phoneHash item
        user.userID deviceID sessionID refreshToken jti) phoneHash deviceID
      item (loginResult cfg user sessionID refreshToken jti store.clock) where
  record := by
    have hrecords : (evicted store sessions).otpRequests =
        store.otpRequests := keeps_evicted (fun _ _ _ => rfl) sessions
    rw [loggedIn, hrecords]
  new := (hkeys sessionID (hdrawn.shape _ (by simp))
    (hdrawn.fresh _ (by simp))).2
  session := ⟨_, AList.lookup_insert _, rfl, rfl, rfl⟩
  others := by
    intro key hkey
    have hlookup : (loggedIn cfg (evicted store sessions) phoneHash item
        user.userID deviceID sessionID refreshToken jti).sessions.lookup key =
          (evicted store sessions).sessions.lookup key :=
      AList.lookup_insert_ne hkey
    rw [hlookup, lookup_evicted]
    split
    · exact .inl rfl
    · exact .inr rfl

/-- The index lists users only, and some user for a phone that is reserved. -/
structure Listed (store : Store) (phone : String) : Prop where
  stored : ∀ key ∈ store.phoneKeys phone, store.users.lookup key ≠ none
  reserved : store.phoneKeys phone = [] →
    store.users.lookup (phoneSentinelKey phone) = none

/-- The random sources have three more identifiers. -/
def Supplied (store : Store) : Prop :=
  ∃ uuids : List String, uuids.length = 3 ∧ uuids.Nodup ∧
    ∀ uuid ∈ uuids, isUUIDText uuid = true ∧ uuid ∉ store.issued

theorem Supplied.drawn (hsupplied : Supplied store) :
    ∃ userID sessionID jti token,
      Drawn store.issued [userID, sessionID, jti] token := by
  obtain ⟨uuids, hlength, hnodup, huuids⟩ := hsupplied
  obtain ⟨userID, sessionID, jti, rfl⟩ := List.length_eq_three.mp hlength
  obtain ⟨token, htoken⟩ := Infinite.exists_notMem_finset
    (userID :: sessionID :: jti :: store.issued).toFinset
  refine ⟨userID, sessionID, jti, token, fun uuid hmem => (huuids uuid hmem).1,
    ?_, ?_⟩
  · rw [List.forall_mem_cons]
    refine ⟨?_, fun uuid hmem => (huuids uuid hmem).2⟩
    simp only [List.mem_toFinset, List.mem_cons, not_or] at htoken
    exact htoken.2.2.2
  · rw [List.nodup_cons]
    refine ⟨?_, hnodup⟩
    simp only [List.mem_toFinset, List.mem_cons, not_or] at htoken
    simp [htoken]

/-- What follows the checks always succeeds. -/
theorem returns_completeVerification
    (hopen : Open store (hashPhone cfg phone) item)
    (hlisted : Listed store phone) (hkeys : KeysIssued store) :
    ∃ results, Returns cfg (completeVerification cfg phone deviceID
        (fromOTPItem (hashPhone cfg phone) item)) store results ∧
      (∀ result after, results result after →
        LoggedIn cfg store after (hashPhone cfg phone) deviceID item result) ∧
      (Supplied store → ∃ result after, results result after) := by
  unfold completeVerification
  by_cases hunlisted : store.phoneKeys phone = []
  · refine ⟨_, Returns.of_certain
      (certain_attempt (certain_findByPhone_of_unlisted hunlisted))
      (returns_verifyOTPNewUser hopen.stored hopen.pending hkeys
        (hlisted.reserved hunlisted)), ?_, ?_⟩
    · rintro result after ⟨userID, sessionID, refreshToken, jti, hdrawn, rfl,
        rfl⟩
      exact loggedIn_registered hkeys hdrawn
    · intro hsupplied
      obtain ⟨userID, sessionID, jti, token, hdrawn⟩ := hsupplied.drawn
      exact ⟨_, _, userID, sessionID, token, jti, hdrawn, rfl, rfl⟩
  · refine ⟨_, (returns_findByPhone hunlisted hlisted.stored).attempt_bind
      (fun user middle result after => ∃ keys sessionID refreshToken jti,
        keys.Perm (middle.activeKeys user.userID (format middle.clock)) ∧
        Drawn middle.issued [sessionID, jti] refreshToken ∧
        result = loginResult cfg user sessionID refreshToken jti
          middle.clock ∧
        after = loggedIn cfg (evicted middle
            (evictions cfg (indexedRecords middle keys) deviceID))
          (hashPhone cfg phone) item user.userID deviceID sessionID
          refreshToken jti) ?_, ?_, ?_⟩
    · rintro user middle ⟨rfl, -⟩
      exact returns_verifyOTPExistingUser hopen.stored hopen.pending hkeys
    · rintro result after ⟨user, middle, ⟨rfl, -⟩, keys, sessionID,
        refreshToken, jti, -, hdrawn, rfl, rfl⟩
      exact loggedIn_evicted hkeys hdrawn _
    · intro hsupplied
      obtain ⟨userID, sessionID, jti, token, hdrawn⟩ := hsupplied.drawn
      obtain ⟨key, hkey⟩ := List.exists_mem_of_ne_nil _ hunlisted
      obtain ⟨user, huser⟩ :=
        Option.ne_none_iff_exists'.mp (hlisted.stored key hkey)
      exact ⟨_, _, _, store, ⟨rfl, key, hkey, user, huser, rfl⟩, _, sessionID,
        token, jti, .refl _, hdrawn.tail, rfl, rfl⟩

/-- An acceptable verification succeeds, and it returns if the random sources
do. -/
theorem loggedIn_of_acceptable
    (hacceptable : Acceptable cfg store phone otpCandidate deviceID item)
    (hlisted : Listed store phone) (hkeys : KeysIssued store) :
    (∀ outcome after, Ends (steps cfg)
        (verifyOTP cfg phone otpCandidate deviceID).run store outcome after →
      ∃ result, outcome = .ok result ∧
        LoggedIn cfg store after (hashPhone cfg phone) deviceID item result) ∧
    (Supplied store → ∃ result after, Ends (steps cfg)
      (verifyOTP cfg phone otpCandidate deviceID).run store (.ok result)
      after) := by
  have hopen := open_verifyCounted.mpr hacceptable.opened
  -- The counter is in Redis: index, users and sessions are those of `store`.
  have hcounted : Listed (verifyCounted store (hashPhone cfg phone)).2 phone :=
    ⟨hlisted.stored, hlisted.reserved⟩
  obtain ⟨results, hreturns, hresults, hexists⟩ :=
    returns_completeVerification hopen hcounted hkeys
  have hwhole : Returns cfg (verifyOTP cfg phone otpCandidate deviceID) store
      results := by
    rw [verifyOTP_eq hacceptable.wellFormed hacceptable.device]
    exact Returns.of_certain (certain_checkVerifyRateLimits hacceptable.limits)
      (Returns.of_certain (certain_validateOTPRecord hopen
        hacceptable.matched) hreturns)
  constructor
  · intro outcome after hends
    obtain ⟨result, rfl, hresult⟩ := (hwhole outcome after).mp hends
    obtain ⟨hrecord, hnew, hsession, hothers⟩ := hresults result after hresult
    exact ⟨result, rfl, hrecord, hnew, hsession, hothers⟩
  · intro hsupplied
    obtain ⟨result, after, hresult⟩ := hexists hsupplied
    exact ⟨result, after, (hwhole _ _).mpr ⟨result, rfl, hresult⟩⟩

/-- A registered phone that the index does not list. -/
def Unlisted (store : Store) (phone : String) : Prop :=
  store.phoneKeys phone = [] ∧
    store.users.lookup (phoneSentinelKey phone) ≠ none

/-- The registration of a phone that is reserved is refused. -/
theorem refused_of_reserved {params : RegistrationParams}
    {outcome : Except GoError Unit}
    (hreserved : store.users.lookup (phoneSentinelKey params.phoneNumber) ≠
      none)
    (hends : Ends (steps cfg) (verifyOTPAndCreateUser params).run store outcome
      after) : after = store ∧ ∃ err, outcome = .error err := by
  obtain ⟨response, middle, ⟨choice, -, hperform⟩, hrest⟩ :=
    ends_request_bind.mp hends
  cases response with
  | ok done =>
      cases effect_of_perform hperform with
      | unchanged hkeeps => cases hkeeps
      | committed items hholds =>
          exact absurd (registration_committed hholds).2.2.1 hreserved
  | error cause =>
      cases effect_of_perform hperform
      obtain ⟨houtcome, rfl⟩ := (certain_run_throw _ _).mp hrest
      exact ⟨rfl, _, houtcome⟩

/-- A registration of such a phone finds no user, neither before its
transaction nor after. -/
theorem fails_verifyOTPNewUser {record : OTPRecord} {result : VerifyOTPResult}
    (hunlisted : Unlisted store phone) :
    ¬ Ends (steps cfg) (verifyOTPNewUser cfg phone phoneHash record
      deviceID).run store (.ok result) after := by
  intro hends
  unfold verifyOTPNewUser at hends
  obtain ⟨userID, first, huser, hrest₁⟩ := ends_run_bind_ok.mp hends
  obtain ⟨_, -, -, -, rfl⟩ := (returns_uuidNewString _ _).mp huser
  obtain ⟨sessionID, second, hsession, hrest₂⟩ := ends_run_bind_ok.mp hrest₁
  obtain ⟨_, -, -, -, rfl⟩ := (returns_uuidNewString _ _).mp hsession
  obtain ⟨now, third, hclock, hrest₃⟩ := ends_run_bind_ok.mp hrest₂
  obtain ⟨-, rfl⟩ := (certain_request (fun _ => rfl) _ _).mp hclock
  obtain ⟨token, fourth, htoken, hrest₄⟩ := ends_run_bind_ok.mp hrest₃
  obtain ⟨_, -, -, rfl⟩ :=
    (returns_generateRefreshToken.wrapError _ _).mp htoken
  obtain ⟨answer, fifth, hattempt, hrest₅⟩ := ends_run_bind_ok.mp hrest₄
  obtain ⟨inner, hcreate, heq⟩ := ends_attempt.mp hattempt
  cases heq
  obtain ⟨hsame, err, rfl⟩ := refused_of_reserved hunlisted.2 hcreate
  have hnone : fifth.phoneKeys phone = [] := by
    rw [hsame]
    exact hunlisted.1
  dsimp only at hrest₅
  split at hrest₅
  · obtain ⟨user, sixth, hfind, -⟩ := ends_run_bind_ok.mp hrest₅
    cases ((certain_wrapError _
      (certain_findByPhone_of_unlisted hnone) _ _).mp hfind).1
  · cases ((certain_run_throw _ _).mp hrest₅).1

/-- An acceptable verification of such a phone fails. -/
theorem fails_of_unlisted {result : VerifyOTPResult}
    (hunlisted : Unlisted store phone) :
    ¬ Ends (steps cfg) (verifyOTP cfg phone otpCandidate deviceID).run store
      (.ok result) after := by
  intro hends
  obtain ⟨item, hacceptable⟩ := acceptable_of_ends hends
  rw [verifyOTP_eq hacceptable.wellFormed hacceptable.device,
    (certain_checkVerifyRateLimits hacceptable.limits).run_bind,
    (certain_validateOTPRecord (open_verifyCounted.mpr hacceptable.opened)
      hacceptable.matched).run_bind] at hends
  unfold completeVerification at hends
  rw [(certain_attempt (certain_findByPhone_of_unlisted
    (show (verifyCounted store (hashPhone cfg phone)).2.phoneKeys phone = []
      from hunlisted.1))).run_bind] at hends
  have hcounted : Unlisted (verifyCounted store (hashPhone cfg phone)).2
      phone := hunlisted
  exact fails_verifyOTPNewUser hcounted hends

theorem answered_checkVerifyRateLimits :
    Only (fun op => answered op = true) (checkVerifyRateLimits phoneHash) := by
  unfold checkVerifyRateLimits
  refine Only.bind (Only.wrapError (only_checkAndIncrement rfl))
    fun allowed => ?_
  split
  · exact only_throw _
  refine Only.bind (Only.wrapError (only_checkLockout rfl)) fun locked => ?_
  split
  · exact only_throw _
  · exact only_pure _

theorem answered_validateOTPRecord :
    Only (fun op => answered op = true)
      (validateOTPRecord phoneHash otpCandidate) := by
  unfold validateOTPRecord readOTPRecord
  refine Only.bind (Only.bind (Only.attempt (only_getOTP rfl)) ?_)
    fun record => ?_
  · rintro (err | record)
    · dsimp only
      split
      · exact only_throw _
      · exact only_throw _
    · exact only_pure _
  split
  · exact only_throw _
  split
  · exact Only.bind (Only.attempt (only_setLockout rfl)) fun _ => only_throw _
  split
  · exact only_throw _
  refine only_request_bind rfl fun now => ?_
  split
  · exact only_throw _
  refine only_request_bind rfl fun matched => ?_
  split
  · exact only_pure _
  · exact Only.bind (Only.attempt (only_incrementAttempts rfl))
      fun _ => only_throw _

/-- A verification returns if the random sources do. -/
theorem exists_ends_verifyOTP (hlisted : Listed store phone)
    (hkeys : KeysIssued store) (hsupplied : Supplied store) :
    ∃ outcome after, Ends (steps cfg)
      (verifyOTP cfg phone otpCandidate deviceID).run store outcome after := by
  by_cases hacceptable :
    ∃ item, Acceptable cfg store phone otpCandidate deviceID item
  · obtain ⟨item, hacceptable⟩ := hacceptable
    obtain ⟨result, after, hends⟩ :=
      (loggedIn_of_acceptable hacceptable hlisted hkeys).2 hsupplied
    exact ⟨.ok result, after, hends⟩
  by_cases hphone : matchesE164 phone = true
  · by_cases hdevice : deviceID = ""
    · simp only [verifyOTP, newPhoneNumber_of_matches hphone, hdevice, if_true]
      exact ⟨_, _, certain_run_throw.ends⟩
    rw [verifyOTP_eq hphone hdevice]
    obtain ⟨limited, counted, hlimited⟩ : ∃ limited counted, Ends (steps cfg)
        (checkVerifyRateLimits (hashPhone cfg phone)).run store limited
        counted :=
      exists_ends answered_checkVerifyRateLimits
    cases limited with
    | error err =>
        exact ⟨.error err, counted, ends_run_bind.mpr
          (.inl ⟨err, hlimited, rfl⟩)⟩
    | ok done =>
        obtain ⟨validated, reached, hvalidated⟩ : ∃ validated reached,
            Ends (steps cfg) (validateOTPRecord (hashPhone cfg phone)
              otpCandidate).run counted validated reached :=
          exists_ends answered_validateOTPRecord
        cases validated with
        | error err =>
            exact ⟨.error err, reached, ends_run_bind.mpr (.inr ⟨done, counted,
              hlimited, ends_run_bind.mpr (.inl ⟨err, hvalidated, rfl⟩)⟩)⟩
        | ok record =>
            obtain ⟨hlimits, rfl⟩ := withinLimits_of_ends hlimited
            obtain ⟨-, item, hopen, hmatches, -⟩ :=
              open_of_validateOTPRecord hvalidated
            exact (hacceptable ⟨item, hphone, hdevice, hlimits,
              open_verifyCounted.mp hopen, hmatches⟩).elim
  · unfold verifyOTP
    split
    · exact ⟨_, _, certain_run_throw.ends⟩
    · next hvalid => exact (hphone (matches_of_newPhoneNumber hvalid)).elim

/-- The count of a Redis key that has not expired. -/
def liveCount (store : Store) (key : RedisKey) : ℕ :=
  ((store.liveEntry key).map RedisEntry.value).getD 0

/-- A wrong candidate has been counted, once in Redis and once in the record,
and nothing else has changed. -/
structure AttemptCounted (before after : Store) (phoneHash : String)
    (item : OTPItem) : Prop where
  counter : liveCount after (.otpVerifyPhone phoneHash) =
    liveCount before (.otpVerifyPhone phoneHash) + 1
  otherKeys : ∀ key, key ≠ .otpVerifyPhone phoneHash →
    after.redis key = before.redis key
  record : after.otpRequests = before.otpRequests.insert phoneHash
    { item with attemptCount := item.attemptCount + 1 }
  rest : after = { before with
    redis := after.redis, otpRequests := after.otpRequests }

theorem liveCount_of_live {key : RedisKey} {entry : RedisEntry}
    (hredis : store.redis key = some entry)
    (hlive : entry.live store.clock = true) :
    liveCount store key = entry.value := by
  have hentry : store.liveEntry key = some entry :=
    Option.filter_eq_some_iff.mpr ⟨hredis, hlive⟩
  rw [liveCount, hentry]
  rfl

theorem liveCount_incrementCounter (key : RedisKey) {windowSeconds : ℕ}
    (hwindow : 0 < windowSeconds) :
    liveCount (store.incrementCounter key windowSeconds).2 key =
      liveCount store key + 1 := by
  have hpos : (0 : Time) < windowSeconds * second :=
    mul_pos (by exact_mod_cast hwindow) (by decide)
  have hopens : ∀ value, RedisEntry.live
      ⟨value, some (store.clock + windowSeconds * second)⟩ store.clock = true :=
    fun _ => decide_eq_true (by linarith)
  cases hentry : store.liveEntry key with
  | none =>
      have hredis : (store.incrementCounter key windowSeconds).2.redis key =
          some ⟨1, some (store.clock + windowSeconds * second)⟩ := by
        simp [Store.incrementCounter, hentry]
      rw [liveCount_of_live hredis (hopens 1), liveCount, hentry]
      rfl
  | some entry =>
      have hlive := (Option.filter_eq_some_iff.mp hentry).2
      -- a count of 1 would have its deadline set again
      by_cases hone : entry.value + 1 = 1
      · have hredis : (store.incrementCounter key windowSeconds).2.redis key =
            some ⟨entry.value + 1,
              some (store.clock + windowSeconds * second)⟩ := by
          simp [Store.incrementCounter, hentry, hone]
        rw [liveCount_of_live hredis (hopens _), liveCount, hentry]
        rfl
      · have hredis : (store.incrementCounter key windowSeconds).2.redis key =
            some { entry with value := entry.value + 1 } := by
          simp only [Store.incrementCounter, hentry, if_neg hone,
            Function.update_self]
        rw [liveCount_of_live hredis hlive, liveCount, hentry]
        rfl

theorem attemptCounted_of_wrong :
    AttemptCounted store
      { (verifyCounted store phoneHash).2 with
        otpRequests := store.otpRequests.insert phoneHash
          { item with attemptCount := item.attemptCount + 1 } }
      phoneHash item where
  counter := liveCount_incrementCounter _ (by decide)
  otherKeys key hkey := Store.redis_incrementCounter_ne store hkey _
  record := rfl
  rest := rfl

end Verifications

end MessagingPlatform.VerifySteps
