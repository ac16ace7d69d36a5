import MessagingPlatform.System.Commits
import MessagingPlatform.System.Deployment

/-!
# Verifications that fail

What a verification that returns an error has changed.  Evictions come before
the transaction and the mint comes after it, so a failure can leave evicted
sessions or a session without tokens behind, and nothing else.
-/

namespace MessagingPlatform.FailedVerification

open Program
open Interleaving
open Instants
open Errors
open Records
open Primitives
open Tables
open Operations
open Effects
open Stores
open StoreRules
open Flows
open VerifyRules
open Service
open ServiceRules
open MessagingPlatform.Runs
open Commits
open Deployment

/-- The users, the sessions, the revocation keys and the statuses of the OTP
records are the same. -/
structure Unaffected (before after : Store) : Prop where
  users : after.users = before.users
  sessions : after.sessions = before.sessions
  revocations : ∀ jti,
    after.redis (.revokedJTI jti) = before.redis (.revokedJTI jti)
  statuses : ∀ phoneHash,
    (after.otpRequests.lookup phoneHash).map OTPItem.status =
      (before.otpRequests.lookup phoneHash).map OTPItem.status

theorem Unaffected.refl (store : Store) : Unaffected store store :=
  ⟨rfl, rfl, fun _ => rfl, fun _ => rfl⟩

/-- A request that evicts one session: a session that the call's own query has
listed, on the device of the call or among the oldest others in excess, after
the code of the call was accepted. -/
structure Evicts (cfg : AuthServiceConfig)
    (phone otpCandidate deviceID : String) (older : History)
    (before after : Store) (rows : List (String × SessionItem))
    (session : SessionRecord) : Prop where
  accepted : ∃ expiresAt storedMAC,
    (⟨.verifyOTPMAC otpCandidate (hashPhone cfg phone) expiresAt storedMAC,
      true⟩ : Entry) ∈ older
  listed : ∃ userID now, (⟨.sessionsQuery userID now, .ok rows⟩ : Entry) ∈ older
  chosen : session ∈ conflictingSessions (listedSessions rows) deviceID ∨
    session ∈ excessSessions cfg (listedSessions rows) deviceID
  evicts : after = { before with
        sessions := before.sessions.erase session.sessionID } ∨
    after = before.setKey (.revokedJTI session.sessionID) revokedJTITTL

section Requests

variable {cfg : AuthServiceConfig}
variable {phone otpCandidate deviceID : String}
variable {before after : Store}

theorem unaffected_of_redis {key : RedisKey} {entry : RedisEntry}
    (hkey : ∀ jti, RedisKey.revokedJTI jti ≠ key) :
    Unaffected before { before with
      redis := Function.update before.redis key (some entry) } :=
  { users := rfl
    sessions := rfl
    revocations := fun jti => Function.update_of_ne (hkey jti) _ _
    statuses := fun _ => rfl }

theorem unaffected_of_increment {phoneHash : String} {item : OTPItem}
    (hitem : before.otpRequests.lookup phoneHash = some item) :
    Unaffected before { before with
      otpRequests := before.otpRequests.insert phoneHash
        { item with attemptCount := item.attemptCount + 1 } } := by
  refine ⟨rfl, rfl, fun _ => rfl, ?_⟩
  intro other
  by_cases hother : other = phoneHash
  · subst other
    rw [AList.lookup_insert, hitem]
    rfl
  · rw [AList.lookup_insert_ne hother]

/-- The parts of a history in which a login evicts. -/
theorem evicts_of_login {login : Login} {done rest : List SessionRecord}
    {session : SessionRecord} {older : History}
    (haccepted : Accepted (hashPhone cfg phone) otpCandidate login.tried
      login.base)
    (hevicted : login.evicted cfg deviceID = done ++ session :: rest)
    (holder : login.evictedEntries phone done <:+ older)
    (hafter : after = { before with
        sessions := before.sessions.erase session.sessionID } ∨
      after = before.setKey (.revokedJTI session.sessionID) revokedJTITTL) :
    Evicts cfg phone otpCandidate deviceID older before after login.rows
      session := by
  have hlisted : login.listedEntries phone <:+ older :=
    (List.suffix_append _ _).trans holder
  have hbase : login.base <:+ older := by
    apply List.IsSuffix.trans _ hlisted
    exact List.suffix_append
      (⟨.sessionsQuery login.userID (format login.listedAt), .ok login.rows⟩ ::
        ⟨.clockNow, login.listedAt⟩ ::
        foundEntries phone login.userID login.others login.userItem) login.base
  have hsession : session ∈ login.evicted cfg deviceID := by
    rw [hevicted]
    exact List.mem_append_right done List.mem_cons_self
  exact
    { accepted := ⟨_, _, hbase.subset
        (haccepted.compared.subset List.mem_cons_self)⟩
      listed := ⟨_, _, hlisted.subset List.mem_cons_self⟩
      chosen := List.mem_append.mp hsession
      evicts := hafter }

/-- Everything a request of a verification can do. -/
theorem verification_effect {older : History} {op : Op} {response : op.Res}
    (hguard : verifyGuard cfg phone otpCandidate deviceID older op)
    (heffect : Effect before ⟨op, response⟩ after) :
    Unaffected before after ∨
      (∃ rows session, Evicts cfg phone otpCandidate deviceID older before
        after rows session) ∨
      ∃ items tried created userID item,
        (⟨op, response⟩ : Entry) = ⟨.transactWriteItems items, .ok ()⟩ ∧
        Commit cfg phone otpCandidate deviceID older items before after tried
          created userID item := by
  cases heffect with
  | unchanged hkeeps => exact Or.inl (Unaffected.refl before)
  | uuid | token => exact Or.inl ⟨rfl, rfl, fun _ => rfl, fun _ => rfl⟩
  | counted key windowSeconds =>
      obtain ⟨rfl, -⟩ := hguard
      exact Or.inl (unaffected_of_redis fun jti => RedisKey.noConfusion)
  | keySet key ttlSeconds =>
      rcases hguard with ⟨rfl, -⟩ |
        ⟨login, done, session, rest, rfl, rfl, haccepted, hevicted, rfl⟩
      · exact Or.inl (unaffected_of_redis fun jti => RedisKey.noConfusion)
      · exact Or.inr (Or.inl ⟨login.rows, session, evicts_of_login haccepted
          hevicted (List.suffix_cons _ _) (Or.inr rfl)⟩)
  | otpPut phoneHash item now hreplaceable => exact hguard.elim
  | otpIncremented phoneHash item hitem =>
      exact Or.inl (unaffected_of_increment hitem)
  | sessionUpdated sessionID update => exact hguard.elim
  | sessionDeleted sessionID =>
      obtain ⟨login, done, session, rest, rfl, haccepted, hevicted, rfl⟩ :=
        hguard
      exact Or.inr (Or.inl ⟨login.rows, session, evicts_of_login haccepted
        hevicted (List.suffix_refl _) (Or.inl rfl)⟩)
  | committed items hholds =>
      obtain ⟨tried, created, userID, item, hcommit⟩ :=
        commit_of_guard hguard hholds
      exact Or.inr (Or.inr ⟨items, tried, created, userID, item, rfl,
        hcommit⟩)

end Requests

/-- Every change that a failed verification has made, whatever else was going
on: none of consequence, the eviction of a session that it had listed, or its
whole transaction, and then its mint failed afterwards. -/
theorem failed_verification_changes (cfg : AuthServiceConfig) (clock : Time)
    (pool : Pool) (hreach : (machine cfg).Reach anyStep (start clock) pool)
    (id : ℕ) (call : Call) (phone otpCandidate deviceID : String)
    (err : GoError) (hcall : pool.calls.lookup id = some call)
    (hreq : call.req = .verifyOTP phone otpCandidate deviceID)
    (hfailed : verifyOutcome call = some (.error err)) (event : Event)
    (hevent : event ∈ pool.log) (hid : event.call = id) :
    Unaffected event.before event.after ∨
      (∃ rows session, Evicts cfg phone otpCandidate deviceID event.older
        event.before event.after rows session) ∨
      ∃ items tried created userID item added,
        event.entry = ⟨.transactWriteItems items, .ok ()⟩ ∧
        Commit cfg phone otpCandidate deviceID event.older items event.before
          event.after tried created userID item ∧
        call.history = added ++ event.entry :: event.older ∧
        MintFailed added := by
  obtain ⟨found, hfound, hsuffix, hguard⟩ :=
    hreach.event_guard (sat_program cfg) hevent
  rw [hid, hcall, Option.some.injEq] at hfound
  subst found
  rw [hreq] at hguard
  obtain ⟨choice, hperform⟩ := hreach.logSound.performed event hevent
  have hpost := hreach.post_of_returned (sat_program cfg) hcall
    (rest_of_verifyOutcome hfailed)
  rw [hreq] at hpost
  rcases verification_effect hguard (effect_of_perform hperform) with
    hunaffected | hevicts |
      ⟨items, tried, created, userID, item, hentry, hcommit⟩
  · exact Or.inl hunaffected
  · exact Or.inr (Or.inl hevicts)
  · have hcommits : commits event.entry = true := by
      rw [show event.entry = _ from hentry]
      rfl
    rcases hpost with huncommitted |
      ⟨items', added, older, hhistory, -, hmint⟩
    · have hfalse := huncommitted event.entry
        (hsuffix.subset List.mem_cons_self)
      rw [hcommits] at hfalse
      cases hfalse
    · have hlast : ⟨.transactWriteItems items', .ok ()⟩ :: older <:+
          call.history := by
        rw [hhistory]
        exact List.suffix_append added _
      obtain ⟨hsame, rfl⟩ := commits_once
        (hreach.wellGuarded (sat_program cfg) hcall).1 hsuffix hcommits hlast
        rfl
      rw [← hsame] at hhistory
      exact Or.inr (Or.inr ⟨items, tried, created, userID, item, added, hentry,
        hcommit, hhistory, hmint⟩)

section Schedules

/-- Two logins of one device with one code.  Both have read the record when the
first commits and returns; the second then lists the sessions, evicts the one
that the first has created, and finds the code consumed. -/
def lostRace : Pool :=
  (machine (deployment [])).runTo withoutFaults (start evening)
    (registration ++
      [.env (.replicateUser user), .env (.replicateSession session)] ++
      serve 2 (.requestOTP phone "203.0.113.7") (issuing 654321) ++
      serve 3 (.verifyOTP phone "654321" "device-b") accepting ++
      serve 4 (.verifyOTP phone "654321" "device-b") accepting ++
      resume 3 (finding user [session] ++ loggingIn sessionB refreshB ++
        minting "88888888-8888-4888-8888-888888888888") ++
      .env (.replicateSession sessionB) ::
      resume 4 (finding user [session, sessionB] ++ evicting 1 ++
        loggingIn sessionC refreshC))

/-- The failed login of that race has evicted what the successful one
created. -/
theorem lost_race_evicts_winner :
    (machine (deployment [])).Reach withoutFaults (start evening) lostRace ∧
      (∃ call ∈ lostRace.calls.lookup 3,
        verifiedSession call = some sessionB) ∧
      (∃ call ∈ lostRace.calls.lookup 4, verifyFailed call = true) ∧
      ∃ event ∈ lostRace.log, event.call = 4 ∧
        event.entry.1 = .sessionsDeleteItem sessionB ∧
        sessionB ∈ event.before.sessions ∧
        sessionB ∉ event.after.sessions := by
  refine ⟨Machine.reach_runTo _, ?_⟩
  decide +kernel

theorem lostRace_changes :
    ∃ event ∈ lostRace.log, event.call = 4 ∧
      event.entry.1 = .sessionsDeleteItem sessionB ∧
      ∃ rows session, Evicts (deployment []) phone "654321" "device-b"
        event.older event.before event.after rows session := by
  have hfacts : (∃ call ∈ lostRace.calls.lookup 4,
        call.req = .verifyOTP phone "654321" "device-b" ∧
        verifyFailed call = true) ∧
      ∃ event ∈ lostRace.log, event.call = 4 ∧
        event.entry.1 = .sessionsDeleteItem sessionB ∧
        sessionB ∈ event.before.sessions ∧
        sessionB ∉ event.after.sessions := by
    decide +kernel
  obtain ⟨⟨call, hcall, hreq, hfailed⟩, event, hevent, hid, hop, hheld,
    hgone⟩ := hfacts
  obtain ⟨err, herr⟩ := error_of_verifyFailed hfailed
  have hreach : (machine (deployment [])).Reach withoutFaults (start evening)
      lostRace := Machine.reach_runTo _
  refine ⟨event, hevent, hid, hop, ?_⟩
  rcases failed_verification_changes (deployment []) evening lostRace
    (hreach.mono fun _ _ _ => trivial) 4 call phone "654321" "device-b" err
    hcall hreq herr event hevent hid with
    hunaffected | hevicts | ⟨items, _, _, _, _, _, hentry, -⟩
  · rw [hunaffected.sessions] at hgone
    exact absurd hheld hgone
  · exact hevicts
  · rw [hentry] at hop
    cases hop

end Schedules

end MessagingPlatform.FailedVerification
