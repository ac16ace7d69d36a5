import MessagingPlatform.System.Runs

/-!
# Committed transactions

Only verifications commit transactions, each at most once.  `Commit` says what
such a commit found in the store, what it left there, and what the call had
done before; every invariant about sessions, codes and users starts from it.
-/

namespace MessagingPlatform.Commits

open Program
open Interleaving
open Instants
open Records
open Identifiers
open Primitives
open Tables
open Operations
open Effects
open Freshness
open Stores
open StoreRules
open Transactions
open RequestRules
open SessionRules
open VerifyRules
open Service
open ServiceRules
open MessagingPlatform.Runs

variable {cfg : AuthServiceConfig} {admissible : Pool → Label → Prop}
variable {clock : Time} {pool : Pool}

theorem eq_of_commits {entry : Entry} (hcommits : commits entry = true) :
    ∃ items, entry = ⟨.transactWriteItems items, .ok ()⟩ := by
  unfold commits at hcommits
  split at hcommits
  · next items => exact ⟨items, rfl⟩
  · cases hcommits

/-- The attributes of the session that a verification creates. -/
def NewSession.item (cfg : AuthServiceConfig) (created : NewSession)
    (userID deviceID : String) : SessionItem :=
  sessionAttributes userID deviceID
    (hashRefreshToken cfg created.refreshToken) (format created.now)
    (format (created.now + refreshTokenLifetime))
    (unix (created.now + refreshTokenLifetime))

/-- The refresh token that a request generated. -/
def generatedToken : Entry → Option String
  | ⟨.randToken, .ok token⟩ => some token
  | _ => none

/-- A transaction that a verification asks for: it creates one session, under
an identifier and a refresh token that the call has drawn, and the call has
committed nothing before. -/
structure Proposal (cfg : AuthServiceConfig) (deviceID : String)
    (older : History) (items : List TransactWriteItem) (created : NewSession)
    (userID : String) : Prop where
  drawnSession : (⟨.uuidNewString, created.sessionID⟩ : Entry) ∈ older
  drawnToken : (⟨.randToken, .ok created.refreshToken⟩ : Entry) ∈ older
  lastToken : older.findSome? generatedToken = some created.refreshToken
  uncommitted : Uncommitted older
  creates : putSessions items =
    [(created.sessionID, NewSession.item cfg created userID deviceID)]

/-- The two ways in which a verification commits: as a registration, which
adds the user and the reservation of the phone, or as a login. -/
inductive Path (cfg : AuthServiceConfig)
    (phone otpCandidate deviceID : String) (older : History)
    (before after : Store) (tried : Attempt) (created : NewSession)
    (userID : String) : Prop
  | registration (base : History)
      (haccepted : Accepted (hashPhone cfg phone) otpCandidate tried base)
      (holder : older = Registration.entries
        ⟨tried, base, userID, created.sessionID, created.now,
          created.refreshToken⟩)
      (huser : before.users.lookup userID = none)
      (hsentinel : before.users.lookup (phoneSentinelKey phone) = none)
      (husers : after.users =
        (before.users.insert userID
          (userAttributes phone (format created.now))).insert
          (phoneSentinelKey phone) (sentinelAttributes phone userID))
  | login (login : Login) (htried : login.tried = tried)
      (huserID : login.userID = userID)
      (haccepted : Accepted (hashPhone cfg phone) otpCandidate login.tried
        login.base)
      (holder : older = created.entries ++
        login.evictedEntries phone (login.evicted cfg deviceID))
      (husers : after.users = before.users)

/-- A committed verification. -/
structure Commit (cfg : AuthServiceConfig)
    (phone otpCandidate deviceID : String) (older : History)
    (items : List TransactWriteItem) (before after : Store)
    (tried : Attempt) (created : NewSession) (userID : String)
    (item : OTPItem) : Prop where
  path : Path cfg phone otpCandidate deviceID older before after tried created
    userID
  proposal : Proposal cfg deviceID older items created userID
  consumable : Consumable before (hashPhone cfg phone) tried.item.expiresAt
    tried.item.otpMAC item
  otpRequests : after.otpRequests = before.otpRequests.insert
    (hashPhone cfg phone) (consumed item)
  absent : before.sessions.lookup created.sessionID = none
  sessions : after.sessions = before.sessions.insert created.sessionID
    (NewSession.item cfg created userID deviceID)
  clock : after.clock = before.clock
  redis : after.redis = before.redis

namespace Commit

variable {phone otpCandidate deviceID userID : String} {older : History}
variable {items : List TransactWriteItem} {before after : Store}
variable {tried : Attempt} {created : NewSession} {item : OTPItem}

theorem accepted (hcommit : Commit cfg phone otpCandidate deviceID older items
      before after tried created userID item) :
    ∃ base, base <:+ older ∧
      Accepted (hashPhone cfg phone) otpCandidate tried base := by
  cases hcommit.path with
  | registration base haccepted holder huser hsentinel husers =>
      refine ⟨base, ?_, haccepted⟩
      rw [holder]
      exact List.suffix_append [_, _, _, _] base
  | login login htried huserID haccepted holder husers =>
      refine ⟨login.base, ?_, htried ▸ haccepted⟩
      rw [holder]
      simp only [Login.evictedEntries, Login.listedEntries,
        Login.listingEntries]
      have hbase := List.suffix_append
        (created.entries ++ (evictionEntries (login.evicted cfg deviceID) ++
          ⟨.sessionsQuery login.userID (format login.listedAt),
            .ok login.rows⟩ :: ⟨.clockNow, login.listedAt⟩ ::
          foundEntries phone login.userID login.others login.userItem))
        login.base
      simpa using hbase

end Commit

section Proposals

variable {phone otpCandidate deviceID : String}

theorem registration_proposal {registration : Registration}
    (haccepted : Accepted (hashPhone cfg phone) otpCandidate
      registration.tried registration.base) :
    Proposal cfg deviceID registration.entries
      (registrationItems (registration.params cfg phone deviceID))
      ⟨registration.sessionID, registration.now, registration.refreshToken⟩
      registration.userID := by
  have hbase := haccepted.quiet.uncommitted
  exact
    { drawnSession := by simp [Registration.entries]
      drawnToken := by simp [Registration.entries]
      lastToken := rfl
      uncommitted := by simp [Registration.entries, commits, hbase]
      creates := rfl }

theorem login_proposal {login : Login} {created : NewSession}
    (haccepted : Accepted (hashPhone cfg phone) otpCandidate login.tried
      login.base) :
    Proposal cfg deviceID
      (created.entries ++
        login.evictedEntries phone (login.evicted cfg deviceID))
      (loginItems (login.params cfg created phone deviceID)) created
      login.userID := by
  have hevicted := Login.uncommitted_evictedEntries haccepted.quiet phone
    (login.evicted cfg deviceID)
  exact
    { drawnSession := by simp [NewSession.entries]
      drawnToken := by simp [NewSession.entries]
      lastToken := rfl
      uncommitted := by simp [NewSession.entries, commits, hevicted]
      creates := rfl }

/-- Transactions are asked for by verifications only. -/
theorem verifyOTP_of_guard {req : Request} {older : History}
    {items : List TransactWriteItem}
    (hguard : guard cfg req older (.transactWriteItems items)) :
    ∃ phone otpCandidate deviceID,
      req = .verifyOTP phone otpCandidate deviceID ∧
        verifyGuard cfg phone otpCandidate deviceID older
          (.transactWriteItems items) := by
  cases req with
  | verifyOTP phone otpCandidate deviceID =>
      exact ⟨phone, otpCandidate, deviceID, rfl, hguard⟩
  | _ => exact hguard.elim

theorem proposal_of_guard {req : Request} {older : History}
    {items : List TransactWriteItem}
    (hguard : guard cfg req older (.transactWriteItems items)) :
    ∃ phone otpCandidate deviceID created userID,
      req = .verifyOTP phone otpCandidate deviceID ∧
        Proposal cfg deviceID older items created userID := by
  obtain ⟨phone, otpCandidate, deviceID, hreq, hverify⟩ :=
    verifyOTP_of_guard hguard
  rcases hverify with ⟨registration, haccepted, rfl, rfl⟩ |
    ⟨login, created, haccepted, rfl, rfl⟩
  · exact ⟨phone, otpCandidate, deviceID, _, _, hreq,
      registration_proposal haccepted⟩
  · exact ⟨phone, otpCandidate, deviceID, _, _, hreq,
      login_proposal haccepted⟩

theorem uncommitted_before {req : Request} {history older : History}
    {entry : Entry} (hconforms : Conforms (guard cfg req) history)
    (hentry : entry :: older <:+ history) (hcommits : commits entry = true) :
    Uncommitted older := by
  have hguard := (hconforms.suffix hentry).1
  obtain ⟨items, rfl⟩ := eq_of_commits hcommits
  obtain ⟨phone, otpCandidate, deviceID, created, userID, -, hproposal⟩ :=
    proposal_of_guard hguard
  exact hproposal.uncommitted

/-- A call commits at most once. -/
theorem commits_once {req : Request} {history older older' : History}
    {entry other : Entry} (hconforms : Conforms (guard cfg req) history)
    (hentry : entry :: older <:+ history) (hcommits : commits entry = true)
    (hother : other :: older' <:+ history)
    (hcommits' : commits other = true) : entry = other ∧ older = older' := by
  rcases List.suffix_or_suffix_of_suffix hentry hother with hinside | hinside
  · rcases List.suffix_cons_iff.mp hinside with heq | hearlier
    · exact List.cons.inj heq
    · have hfalse := uncommitted_before hconforms hother hcommits' entry
        (hearlier.subset List.mem_cons_self)
      rw [hcommits] at hfalse
      cases hfalse
  · rcases List.suffix_cons_iff.mp hinside with heq | hearlier
    · exact ⟨(List.cons.inj heq).1.symm, (List.cons.inj heq).2.symm⟩
    · have hfalse := uncommitted_before hconforms hentry hcommits other
        (hearlier.subset List.mem_cons_self)
      rw [hcommits'] at hfalse
      cases hfalse

end Proposals

/-- A registration or a login that goes through. -/
theorem commit_of_guard {phone otpCandidate deviceID : String}
    {older : History} {items : List TransactWriteItem} {before : Store}
    (hguard : verifyGuard cfg phone otpCandidate deviceID older
      (.transactWriteItems items))
    (hholds : ∀ item ∈ items, item.holds before = true) :
    ∃ tried created userID item,
      Commit cfg phone otpCandidate deviceID older items before
        (items.foldl TransactWriteItem.write before) tried created userID
        item := by
  rcases hguard with ⟨registration, haccepted, rfl, rfl⟩ |
    ⟨login, created, haccepted, rfl, rfl⟩
  · obtain ⟨⟨item, hitem, hafter⟩, huser, hsentinel, hsession⟩ :=
      registration_committed hholds
    refine ⟨registration.tried,
      ⟨registration.sessionID, registration.now, registration.refreshToken⟩,
      registration.userID, item, ?_⟩
    rw [hafter]
    exact
      { path := .registration registration.base haccepted rfl huser hsentinel
          rfl
        proposal := registration_proposal haccepted
        consumable := hitem
        otpRequests := rfl
        absent := hsession
        sessions := rfl
        clock := rfl
        redis := rfl }
  · obtain ⟨⟨item, hitem, hafter⟩, hsession⟩ := login_committed hholds
    refine ⟨login.tried, created, login.userID, item, ?_⟩
    rw [hafter]
    exact
      { path := .login login rfl rfl haccepted rfl rfl
        proposal := login_proposal haccepted
        consumable := hitem
        otpRequests := rfl
        absent := hsession
        sessions := rfl
        clock := rfl
        redis := rfl }

theorem commit_of_exec {id : ℕ} {call : Call}
    {items : List TransactWriteItem} {after : Store}
    (hexec : Exec cfg pool id call (.transactWriteItems items) (.ok ())
      after) :
    ∃ phone otpCandidate deviceID tried created userID item,
      call.req = .verifyOTP phone otpCandidate deviceID ∧
        Commit cfg phone otpCandidate deviceID call.history items pool.store
          after tried created userID item := by
  obtain ⟨phone, otpCandidate, deviceID, hreq, hguard⟩ :=
    verifyOTP_of_guard hexec.guarded
  cases hexec.effect with
  | unchanged hkeeps => cases hkeeps
  | committed items hholds =>
      obtain ⟨tried, created, userID, item, hcommit⟩ :=
        commit_of_guard hguard hholds
      exact ⟨phone, otpCandidate, deviceID, tried, created, userID, item, hreq,
        hcommit⟩

/-- A logged commit. -/
theorem commit_of_event {event : Event}
    (hreach : (machine cfg).Reach admissible (start clock) pool)
    (hevent : event ∈ pool.log) (hcommits : commits event.entry = true) :
    ∃ call phone otpCandidate deviceID items tried created userID item,
      pool.calls.lookup event.call = some call ∧
      event.entry :: event.older <:+ call.history ∧
      call.req = .verifyOTP phone otpCandidate deviceID ∧
      event.entry = ⟨.transactWriteItems items, .ok ()⟩ ∧
      Commit cfg phone otpCandidate deviceID event.older items event.before
        event.after tried created userID item := by
  obtain ⟨call, hcall, hsuffix, hguard⟩ :=
    hreach.event_guard (sat_program cfg) hevent
  obtain ⟨choice, hperform⟩ := hreach.logSound.performed event hevent
  obtain ⟨id, older, entry, before, after⟩ := event
  obtain ⟨items, rfl⟩ := eq_of_commits hcommits
  obtain ⟨phone, otpCandidate, deviceID, hreq, hverify⟩ :=
    verifyOTP_of_guard hguard
  have heffect : Effect before ⟨.transactWriteItems items, .ok ()⟩ after :=
    effect_of_perform hperform
  cases heffect with
  | unchanged hkeeps => cases hkeeps
  | committed items hholds =>
      obtain ⟨tried, created, userID, item, hcommit⟩ :=
        commit_of_guard hverify hholds
      exact ⟨call, phone, otpCandidate, deviceID, items, tried, created,
        userID, item, hcall, hsuffix, hreq, rfl, hcommit⟩

/-- A verification that has returned success has committed. -/
theorem commit_of_verified {id : ℕ} {call : Call}
    {phone otpCandidate deviceID : String}
    (hreach : (machine cfg).Reach admissible (start clock) pool)
    (hcall : pool.calls.lookup id = some call)
    (hreq : call.req = .verifyOTP phone otpCandidate deviceID)
    (hsuccess : (verifiedSession call).isSome = true) :
    ∃ event ∈ pool.log, event.call = id ∧ commits event.entry = true ∧
      ∃ items tried created userID item,
        Commit cfg phone otpCandidate deviceID event.older items event.before
          event.after tried created userID item := by
  obtain ⟨sessionID, hsession⟩ := Option.isSome_iff_exists.mp hsuccess
  obtain ⟨result, hresult, -⟩ := Option.map_eq_some_iff.mp hsession
  obtain ⟨outcome, houtcome, hok⟩ := Option.bind_eq_some_iff.mp hresult
  cases outcome with
  | error err => cases hok
  | ok value =>
      have hpost := hreach.post_of_returned (sat_program cfg) hcall
        (rest_of_verifyOutcome houtcome)
      rw [hreq] at hpost
      obtain ⟨items, added, older, hhistory, -, -⟩ := hpost
      have hentry : (⟨.transactWriteItems items, .ok ()⟩ : Entry) ∈
          call.history := by simp [hhistory]
      obtain ⟨event, hevent, hid, hperformed⟩ :=
        hreach.event_of_mem hcall hentry
      have hcommits : commits event.entry = true := by
        rw [hperformed]
        rfl
      obtain ⟨found, phone', otpCandidate', deviceID', items, tried, created,
        userID, item, hfound, -, hreq', -, hcommit⟩ :=
        commit_of_event hreach hevent hcommits
      rw [hid, hcall, Option.some.injEq] at hfound
      subst found
      rw [hreq] at hreq'
      cases hreq'
      exact ⟨event, hevent, hid, hcommits, items, tried, created, userID, item,
        hcommit⟩

section Records

/-- A performed write to the record of a phone that is no transaction. -/
def writesRecord (phoneHash : String) : Entry → Bool
  | ⟨.otpPutItem written _ _, .ok ()⟩ => written == phoneHash
  | ⟨.otpUpdateItem written, .ok ()⟩ => written == phoneHash
  | _ => false

/-- What a request can do to the record of a phone. -/
inductive RecordChange (phoneHash : String) (before : Option OTPItem) :
    Entry → Option OTPItem → Prop
  | kept {entry : Entry} (hkeeps : writesRecord phoneHash entry = false) :
      RecordChange phoneHash before entry before
  | stored (item : OTPItem) (now : TimeText)
      (hreplaceable : otpReplaceable now before = true) :
      RecordChange phoneHash before ⟨.otpPutItem phoneHash item now, .ok ()⟩
        (some item)
  | incremented (item : OTPItem) (hbefore : before = some item) :
      RecordChange phoneHash before ⟨.otpUpdateItem phoneHash, .ok ()⟩
        (some { item with attemptCount := item.attemptCount + 1 })
  | consumed (items : List TransactWriteItem) (item : OTPItem)
      (hbefore : before = some item) (hpending : item.status = .pending) :
      RecordChange phoneHash before ⟨.transactWriteItems items, .ok ()⟩
        (some (Transactions.consumed item))

theorem writesRecord_of_keepsStore {phoneHash : String} {entry : Entry}
    (hkeeps : keepsStore entry = true) :
    writesRecord phoneHash entry = false := by
  unfold writesRecord
  split
  · cases hkeeps
  · cases hkeeps
  · rfl

theorem recordChange_of_effect {req : Request} {older : History} {op : Op}
    {response : op.Res} {before after : Store} (phoneHash : String)
    (hguard : guard cfg req older op)
    (heffect : Effect before ⟨op, response⟩ after) :
    RecordChange phoneHash (before.otpRequests.lookup phoneHash)
      ⟨op, response⟩ (after.otpRequests.lookup phoneHash) := by
  cases heffect with
  | unchanged hkeeps => exact .kept (writesRecord_of_keepsStore hkeeps)
  | otpPut written item now hreplaceable =>
      by_cases hhash : phoneHash = written
      · subst hhash
        rw [AList.lookup_insert]
        exact .stored item now hreplaceable
      · rw [AList.lookup_insert_ne hhash]
        exact .kept (by simp [writesRecord, Ne.symm hhash])
  | otpIncremented written item hitem =>
      by_cases hhash : phoneHash = written
      · subst hhash
        rw [AList.lookup_insert]
        exact .incremented item hitem
      · rw [AList.lookup_insert_ne hhash]
        exact .kept (by simp [writesRecord, Ne.symm hhash])
  | committed items hholds =>
      obtain ⟨phone, otpCandidate, deviceID, -, hverify⟩ :=
        verifyOTP_of_guard hguard
      obtain ⟨tried, created, userID, item, hcommit⟩ :=
        commit_of_guard hverify hholds
      rw [hcommit.otpRequests]
      by_cases hhash : phoneHash = hashPhone cfg phone
      · subst hhash
        rw [AList.lookup_insert]
        exact .consumed items item hcommit.consumable.stored
          hcommit.consumable.pending
      · rw [AList.lookup_insert_ne hhash]
        exact .kept rfl
  | _ => exact .kept rfl

/-- The record of a phone that a request read. -/
def recordRead (phoneHash : String) : Entry → Option OTPItem
  | ⟨.otpGetItem read, .ok (some item)⟩ =>
      if read = phoneHash then some item else none
  | _ => none

end Records

/-- A verification that has accepted its code has locked nobody out and has
written no record. -/
theorem calm_of_accepted {phone otpCandidate deviceID : String}
    {history : History} {tried : Attempt}
    (hconforms : Conforms (verifyGuard cfg phone otpCandidate deviceID)
      history)
    (hcompared : tried.comparedEntries (hashPhone cfg phone) otpCandidate
      true <:+ history) (phoneHash : String) :
    ∀ entry ∈ history, writesRecord phoneHash entry = false ∧
      writesKey (.otpLockoutPhone phoneHash) entry = false := by
  intro entry hentry
  obtain ⟨older, hsuffix, hguard⟩ := hconforms.guard_of_mem hentry
  obtain ⟨op, response⟩ := entry
  cases op with
  | otpUpdateItem counted =>
      obtain ⟨rfl, other, -, rfl⟩ := hguard
      -- Both histories end with a comparison, of different outcomes.
      have hsame := (List.suffix_of_suffix_length_le hcompared
        ((List.suffix_cons _ _).trans hsuffix) (le_refl 5)).eq_of_length rfl
      simp [Attempt.comparedEntries] at hsame
  | redisSet key ttlSeconds =>
      rcases hguard with ⟨-, -, other, -, rfl⟩ |
        ⟨login, done, session, rest, rfl, -⟩
      · have hshort := (List.suffix_cons _ _).trans hcompared
        have hsame := (List.suffix_of_suffix_length_le hshort hsuffix
          (le_refl 4)).eq_of_length rfl
        simp [Attempt.readEntries] at hsame
      · cases response <;> simp [writesRecord, writesKey]
  | redisEval key windowSeconds =>
      obtain ⟨rfl, -, -⟩ := hguard
      cases response <;> simp [writesRecord, writesKey]
  | otpPutItem written item now => exact hguard.elim
  | _ => exact ⟨rfl, rfl⟩

/-- A comparison in a history says whether the candidate has the MAC. -/
theorem matched_of_compared {id : ℕ} {call : Call}
    {otpCandidate phoneHash storedMAC : String} {expiresAt : TimeText}
    {matched : Bool}
    (hreach : (machine cfg).Reach admissible (start clock) pool)
    (hcall : pool.calls.lookup id = some call)
    (hcompared : (⟨.verifyOTPMAC otpCandidate phoneHash expiresAt storedMAC,
      matched⟩ : Entry) ∈ call.history) :
    matched = verifyOTPMAC cfg otpCandidate phoneHash expiresAt.render
      storedMAC := by
  refine forall_entries (F := fun _ entry =>
    ∀ otpCandidate phoneHash expiresAt storedMAC matched,
      entry = ⟨.verifyOTPMAC otpCandidate phoneHash expiresAt storedMAC,
        matched⟩ →
      matched = verifyOTPMAC cfg otpCandidate phoneHash expiresAt.render
        storedMAC) ?_ ?_ hreach hcall _ hcompared _ _ _ _ _ rfl
  · intro pool later entry hentry _
    exact hentry
  · intro pool id choice call op next response after _ hexec _ _ otpCandidate
      phoneHash
      expiresAt storedMAC matched heq
    cases heq
    exact hexec.answers

section Sessions

/-- Sessions are updated by refreshes only, with what they have read. -/
theorem rotation_of_guard {req : Request} {older : History}
    {sessionID : String} {update : SessionUpdate}
    (hguard : guard cfg req older (.sessionsUpdateItem sessionID update)) :
    ∃ (accessToken refreshToken deviceID : String) (look : Lookup)
      (newRefresh : String) (now : Time),
      req = .refreshTokens accessToken refreshToken deviceID ∧
      look.Current cfg accessToken refreshToken deviceID ∧
      sessionID = look.claims.sessionID ∧
      update = look.rotation cfg newRefresh now ∧
      older = look.rotatingEntries newRefresh now := by
  cases req with
  | refreshTokens accessToken refreshToken deviceID =>
      obtain ⟨look, newRefresh, now, hfacts⟩ := hguard
      exact ⟨accessToken, refreshToken, deviceID, look, newRefresh, now, rfl,
        hfacts⟩
  | _ => exact hguard.elim

/-- A performed write to a session. -/
def writesSession (sessionID : String) : Entry → Bool
  | ⟨.sessionsUpdateItem written _, .ok ()⟩ => written == sessionID
  | ⟨.sessionsDeleteItem written, .ok ()⟩ => written == sessionID
  | ⟨.transactWriteItems items, .ok ()⟩ =>
      (createdSessions items).contains sessionID
  | _ => false

/-- A deletion of the session that did not fail. -/
def deletion (sessionID : String) : Entry → Bool
  | ⟨.sessionsDeleteItem deleted, .ok ()⟩ => deleted == sessionID
  | _ => false

/-- What a request can do to a session. -/
inductive SessionChange (sessionID : String) (before : Option SessionItem) :
    Entry → Option SessionItem → Prop
  | kept {entry : Entry} (hkeeps : writesSession sessionID entry = false) :
      SessionChange sessionID before entry before
  | rotated (update : SessionUpdate) :
      SessionChange sessionID before
        ⟨.sessionsUpdateItem sessionID update, .ok ()⟩
        (some (updatedSession update before))
  | deleted :
      SessionChange sessionID before ⟨.sessionsDeleteItem sessionID, .ok ()⟩
        none
  | created (items : List TransactWriteItem) (item : SessionItem)
      (habsent : before = none)
      (hput : putSessions items = [(sessionID, item)]) :
      SessionChange sessionID before ⟨.transactWriteItems items, .ok ()⟩
        (some item)

theorem writesSession_of_keepsStore {sessionID : String} {entry : Entry}
    (hkeeps : keepsStore entry = true) :
    writesSession sessionID entry = false := by
  unfold writesSession
  split
  · cases hkeeps
  · cases hkeeps
  · cases hkeeps
  · rfl

theorem sessionChange_of_effect {req : Request} {older : History} {op : Op}
    {response : op.Res} {before after : Store} (sessionID : String)
    (hguard : guard cfg req older op)
    (heffect : Effect before ⟨op, response⟩ after) :
    SessionChange sessionID (before.sessions.lookup sessionID) ⟨op, response⟩
      (after.sessions.lookup sessionID) := by
  cases heffect with
  | unchanged hkeeps => exact .kept (writesSession_of_keepsStore hkeeps)
  | sessionUpdated written update =>
      by_cases hsession : sessionID = written
      · subst hsession
        rw [AList.lookup_insert]
        exact .rotated update
      · rw [AList.lookup_insert_ne hsession]
        exact .kept (by simp [writesSession, Ne.symm hsession])
  | sessionDeleted written =>
      by_cases hsession : sessionID = written
      · subst hsession
        rw [AList.lookup_erase]
        exact .deleted
      · rw [AList.lookup_erase_ne hsession]
        exact .kept (by simp [writesSession, Ne.symm hsession])
  | committed items hholds =>
      obtain ⟨phone, otpCandidate, deviceID, -, hverify⟩ :=
        verifyOTP_of_guard hguard
      obtain ⟨tried, created, userID, item, hcommit⟩ :=
        commit_of_guard hverify hholds
      rw [hcommit.sessions]
      by_cases hsession : sessionID = created.sessionID
      · subst hsession
        rw [AList.lookup_insert]
        exact .created items _ hcommit.absent hcommit.proposal.creates
      · rw [AList.lookup_insert_ne hsession]
        refine .kept ?_
        simp [writesSession, createdSessions, hcommit.proposal.creates,
          hsession]
  | _ => exact .kept rfl

end Sessions

section SessionIdentifiers

/-- The session that a performed request created. -/
def createdSession : Entry → Option String
  | ⟨.transactWriteItems items, .ok ()⟩ => (createdSessions items).head?
  | _ => none

theorem createdSession_of_uncommitted {entry : Entry}
    (hentry : commits entry = false) : createdSession entry = none := by
  unfold createdSession
  split
  · cases hentry
  · rfl

theorem createdSession_drawn {req : Request} {older : History} {op : Op}
    {response : op.Res} {sessionID : String} (hguard : guard cfg req older op)
    (hcreated : createdSession ⟨op, response⟩ = some sessionID) :
    (∃ entry ∈ older, issuedValue entry = some sessionID) ∧
      Uncommitted older := by
  cases op with
  | transactWriteItems items =>
      obtain ⟨phone, otpCandidate, deviceID, created, userID, -, hproposal⟩ :=
        proposal_of_guard hguard
      cases response with
      | error cause => cases hcreated
      | ok done =>
          simp only [createdSession, createdSessions, hproposal.creates,
            List.map_cons, List.head?_cons, Option.some.injEq] at hcreated
          subst hcreated
          exact ⟨⟨_, hproposal.drawnSession, rfl⟩, hproposal.uncommitted⟩
  | _ => cases hcreated

/-- No session is created twice. -/
theorem createdSession_nodup
    (hreach : (machine cfg).Reach admissible (start clock) pool) :
    (mentioned createdSession pool.log).Nodup := by
  apply uses_nodup (sat_program cfg) (fun pool hpool => issued_nodup hpool)
    ?_ ?_ hreach
  · intro req older op response sessionID hguard hcreated
    exact (createdSession_drawn hguard hcreated).1
  · intro req older op response sessionID _ hguard hcreated entry hentry
    have huncommitted := (createdSession_drawn hguard hcreated).2
    rw [createdSession_of_uncommitted (huncommitted entry hentry)]
    exact Option.some_ne_none _ |>.symm

end SessionIdentifiers

end MessagingPlatform.Commits
