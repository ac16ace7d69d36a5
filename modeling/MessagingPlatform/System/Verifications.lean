import MessagingPlatform.App.VerifySteps
import MessagingPlatform.System.ExpiredCodes
import MessagingPlatform.System.PhoneLookup

/-!
# Verifications as single steps

The keys of the users and sessions tables were handed out by the random
sources, so that a fresh identifier is new to both tables.  On such stores a
verification that nothing interrupts succeeds exactly for an acceptable
candidate.
-/

namespace MessagingPlatform.Verifications

open Program
open Interleaving
open OneStep
open Instants
open Errors
open Records
open Identifiers
open Primitives
open Tables
open Operations
open Effects
open Freshness
open Stores
open StoreSteps
open Transactions
open Flows
open FlowSteps
open VerifySteps
open VerifyRules
open SessionRules
open Service
open ServiceRules
open MessagingPlatform.Runs
open Commits
open Registrations
open PhoneLookup (Indexed)
open SingleSteps
open Deployment
open ExpiredCodes

variable {cfg : AuthServiceConfig} {admissible : Pool → Label → Prop}
variable {clock : Time} {pool : Pool}

section Keys

/-- What a call has drawn was handed out. -/
theorem issued_of_drawn {id : ℕ} {call : Call} {entry : Entry} {value : String}
    (hreach : (machine cfg).Reach admissible (start clock) pool)
    (hcall : pool.calls.lookup id = some call)
    (hentry : entry ∈ call.history) (hvalue : issuedValue entry = some value) :
    value ∈ pool.store.issued := by
  obtain ⟨event, hevent, -, rfl⟩ := hreach.event_of_mem hcall hentry
  have hissued : pool.store.issued = mentioned issuedValue pool.log :=
    ((randomSources cfg).issued_eq rfl hreach).1
  rw [hissued]
  exact mem_mentioned.mpr ⟨event, hevent, hvalue⟩

theorem issued_mono {first : Pool}
    (hreach : (machine cfg).Reach admissible first pool) {value : String}
    (hvalue : value ∈ first.store.issued) : value ∈ pool.store.issued := by
  refine Machine.Reach.invariant (I := fun pool =>
    value ∈ pool.store.issued) hvalue ?_ ?_ ?_ hreach
  · intro pool id req _ ih _ _
    exact ih
  · intro pool id choice call op next response after _ ih _ _ hperform _
    change value ∈ after.issued
    rw [(effect_of_perform hperform).issued.1]
    exact List.mem_append_right _ ih
  · intro pool change after _ ih hadvance _
    change value ∈ after.issued
    rw [(framed_of_advance hadvance).issued]
    exact ih

/-- A transaction adds no user but the one whose identifier it has drawn. -/
theorem user_of_commit {id : ℕ} {call : Call} {items : List TransactWriteItem}
    {after : Store} {key : String} {item : UserItem}
    (hexec : Exec cfg pool id call (.transactWriteItems items) (.ok ()) after)
    (hkey : isUUIDText key = true)
    (hitem : after.users.lookup key = some item) :
    (⟨.uuidNewString, key⟩ : Entry) ∈ call.history ∨
      pool.store.users.lookup key = some item := by
  obtain ⟨phone, otpCandidate, deviceID, -, hguard⟩ :=
    verifyOTP_of_guard hexec.guarded
  cases hexec.effect with
  | unchanged hkeeps => cases hkeeps
  | committed items hholds =>
      rcases hguard with ⟨registration, -, rfl, holder⟩ |
        ⟨login, created, -, rfl, -⟩
      · obtain ⟨⟨consumedItem, -, hafter⟩, -⟩ := registration_committed hholds
        rw [hafter, AList.lookup_insert_ne
          (Registered.userID_ne_sentinelKey hkey _)] at hitem
        by_cases hnew : key = (registration.params cfg phone deviceID).userID
        · left
          rw [hnew]
          simp [holder, Registration.entries, Registration.params]
        · right
          rwa [AList.lookup_insert_ne hnew] at hitem
      · obtain ⟨⟨consumedItem, -, hafter⟩, -⟩ := login_committed hholds
        right
        rwa [hafter] at hitem

/-- A key of the users table that is no reservation was handed out. -/
theorem issued_of_user
    (hreach : (machine cfg).Reach admissible (start clock) pool)
    {key : String} {item : UserItem} (hkey : isUUIDText key = true)
    (hitem : pool.store.users.lookup key = some item) :
    key ∈ pool.store.issued := by
  refine invariant (I := fun pool => ∀ item,
    pool.store.users.lookup key = some item → key ∈ pool.store.issued)
    ?_ ?_ ?_ ?_ hreach item hitem
  · intro item hitem
    simp [start, Pool.initial, Store.empty] at hitem
  · intro pool id req _ ih _ _ _
    exact ih
  · intro pool id choice call op next response after hpool ih hexec _ hlater
      item hitem
    replace hitem : after.users.lookup key = some item := hitem
    apply issued_mono hlater
    cases hcommits : commits ⟨op, response⟩ with
    | false =>
        rw [users_of_effect hexec.effect hcommits] at hitem
        exact ih item hitem
    | true =>
        obtain ⟨items, heq⟩ := eq_of_commits hcommits
        cases heq
        rcases user_of_commit hexec hkey hitem with hdrawn | hbefore
        · exact issued_of_drawn hpool hexec.lookup hdrawn rfl
        · exact ih item hbefore
  · intro pool change after _ ih hadvance _ hlater item hitem
    replace hitem : after.users.lookup key = some item := hitem
    rw [(framed_of_advance hadvance).users] at hitem
    exact issued_mono hlater (ih item hitem)

/-- A session that is stored, or that a call has read, was created. -/
structure Created (sessionID : String) (pool : Pool) : Prop where
  stored : ∀ item, pool.store.sessions.lookup sessionID = some item →
    sessionID ∈ mentioned createdSession pool.log
  read : ∀ id call item, pool.calls.lookup id = some call →
    (⟨.sessionsGetItem sessionID, .ok (some item)⟩ : Entry) ∈ call.history →
      sessionID ∈ mentioned createdSession pool.log

theorem created (hreach : (machine cfg).Reach admissible (start clock) pool)
    (sessionID : String) : Created sessionID pool := by
  refine invariant (I := Created sessionID) ?_ ?_ ?_ ?_ hreach
  · constructor
    · intro item hitem
      simp [start, Pool.initial, Store.empty] at hitem
    · intro id call item hcall
      simp [start, Pool.initial] at hcall
  · intro pool id req _ ih _ _ _
    refine ⟨ih.stored, fun other later item hlater hread => ?_⟩
    rcases lookup_startCall hlater with ⟨-, hhistory⟩ | hbefore
    · rw [hhistory] at hread
      cases hread
    · exact ih.read other later item hbefore hread
  · intro pool id choice call op next response after _ ih hexec _ _
    have hgrows : ∀ {key}, key ∈ mentioned createdSession pool.log →
        key ∈ mentioned createdSession
          (pool.execCall id call op next response after).log := by
      intro key hkey
      rw [Pool.execCall, mentioned_cons]
      exact List.mem_append_right _ hkey
    constructor
    · intro item hitem
      have hchange :=
        sessionChange_of_effect sessionID hexec.guarded hexec.effect
      rw [show after.sessions.lookup sessionID = some item from hitem]
        at hchange
      generalize hbefore : pool.store.sessions.lookup sessionID = earlier
        at hchange
      cases hchange with
      | kept hkeeps => exact hgrows (ih.stored item hbefore)
      | rotated update =>
          -- A rotation writes what it has read, deleted meanwhile or not.
          obtain ⟨_, _, _, look, _, _, -, -, hsession, -, hhistory⟩ :=
            rotation_of_guard hexec.guarded
          apply hgrows (ih.read id call look.item hexec.lookup _)
          simp [hhistory, hsession, Lookup.rotatingEntries, Lookup.entries]
      | created items item habsent hput =>
          rw [Pool.execCall, mentioned_cons, List.mem_append]
          left
          simp [createdSession, createdSessions, hput]
    · intro other later item hlater hread
      rcases lookup_execCall hlater with ⟨-, -, hhistory⟩ | ⟨-, hbefore⟩
      · rw [hhistory] at hread
        rcases List.mem_cons.mp hread with hnew | hold
        · cases hnew
          exact hgrows (ih.stored item hexec.answers.symm)
        · exact hgrows (ih.read id call item hexec.lookup hold)
      · exact hgrows (ih.read other later item hbefore hread)
  · intro pool change after _ ih hadvance _ _
    refine ⟨fun item hitem => ih.stored item ?_, ih.read⟩
    rw [← (framed_of_advance hadvance).sessions]
    exact hitem

/-- A key of the sessions table was handed out. -/
theorem issued_of_session
    (hreach : (machine cfg).Reach admissible (start clock) pool)
    {key : String} {item : SessionItem}
    (hitem : pool.store.sessions.lookup key = some item) :
    key ∈ pool.store.issued := by
  obtain ⟨event, hevent, hcreated⟩ :=
    mem_mentioned.mp ((created hreach key).stored item hitem)
  obtain ⟨call, hcall, hsuffix, hguard⟩ :=
    hreach.event_guard (sat_program cfg) hevent
  obtain ⟨⟨entry, hentry, hvalue⟩, -⟩ :=
    createdSession_drawn hguard hcreated
  exact issued_of_drawn hreach hcall
    (hsuffix.subset (List.mem_cons_of_mem _ hentry)) hvalue

/-- A fresh identifier is new to the tables of the running service. -/
theorem keysIssued_of_reach
    (hreach : (machine cfg).Reach admissible (start clock) pool) :
    KeysIssued pool.store := by
  intro uuid hshape hfresh
  constructor
  · apply Option.eq_none_iff_forall_ne_some.mpr
    intro item hitem
    exact hfresh (issued_of_user hreach hshape hitem)
  · apply Option.eq_none_iff_forall_ne_some.mpr
    intro item hitem
    exact hfresh (issued_of_session hreach hitem)

end Keys

section Index

variable {phone : String}

/-- A current index lists a phone that is registered. -/
theorem not_unlisted_of_indexed
    (hreach : (machine cfg).Reach admissible (start clock) pool)
    (hindexed : Indexed pool.store) : ¬ Unlisted pool.store phone := by
  rintro ⟨hnone, hreserved⟩
  obtain ⟨item, hitem⟩ := Option.ne_none_iff_exists'.mp hreserved
  obtain ⟨registered, hregistered⟩ := exists_registered hreach
  obtain ⟨params, -, hphone, rfl⟩ :=
    (lookup_sentinelKey_iff hregistered).mp hitem
  have hlisted : phoneSentinelKey phone ∈ pool.store.phoneKeys phone := by
    rw [mem_phoneKeys, hindexed, hitem]
    exact congrArg some hphone
  rw [hnone] at hlisted
  cases hlisted

/-- A reachable index lists users only. -/
theorem listed_of_reach
    (hreach : (machine cfg).Reach admissible (start clock) pool)
    (hlisted : ¬ Unlisted pool.store phone) : Listed pool.store phone where
  stored := by
    intro key hkey
    obtain ⟨item, hitem, -⟩ := hasPhone_of_indexed hreach
      (mem_phoneKeys.mp hkey)
    rw [hitem]
    exact Option.some_ne_none _
  reserved := by
    intro hnone
    by_contra hreserved
    exact hlisted ⟨hnone, hreserved⟩

end Index

/-- In every reachable store with a current phone-number index, a verification
that is served as one step without failures succeeds exactly for an acceptable
candidate.  It then consumes the record and adds one session; a wrong candidate
is counted once in Redis and once in the record, and nothing else changes.  It
returns if the random sources have values left. -/
theorem verification_exact (cfg : AuthServiceConfig) (clock : Time)
    (first : Pool) (hreach : (machine cfg).Reach anyStep (start clock) first)
    (hindexed : Indexed first.store)
    (phone otpCandidate deviceID : String) (id : ℕ) :
    (∀ history outcome ended,
      Stepped cfg Choice.unfaulted first id
        (.verifyOTP phone otpCandidate deviceID) history (.verifyOTP outcome)
        ended →
      ((∃ result, outcome = .ok result) ↔
        ∃ item, Acceptable cfg first.store phone otpCandidate deviceID item) ∧
      (∀ result, outcome = .ok result →
        ∃ item, first.store.otpRequests.lookup (hashPhone cfg phone) =
            some item ∧
          LoggedIn cfg first.store ended.store (hashPhone cfg phone) deviceID
            item result) ∧
      ∀ item, matchesE164 phone = true → deviceID ≠ "" →
        WithinLimits first.store (hashPhone cfg phone) →
        Open first.store (hashPhone cfg phone) item →
        ¬ Matches cfg otpCandidate (hashPhone cfg phone) item →
          AttemptCounted first.store ended.store (hashPhone cfg phone) item) ∧
    (first.calls.lookup id = none → Supplied first.store →
      ∃ history outcome ended,
        Stepped cfg Choice.unfaulted first id
          (.verifyOTP phone otpCandidate deviceID) history (.verifyOTP outcome)
          ended) := by
  have hkeys := keysIssued_of_reach hreach
  have hlisted : Listed first.store phone :=
    listed_of_reach hreach (not_unlisted_of_indexed hreach hindexed)
  constructor
  · intro history outcome ended hstepped
    have hends : Ends (steps cfg) (verifyOTP cfg phone otpCandidate
        deviceID).run first.store outcome ended.store :=
      ⟨history, runs_verifyOTP.mp hstepped.runs⟩
    refine ⟨⟨?_, ?_⟩, ?_, ?_⟩
    · rintro ⟨result, rfl⟩
      exact acceptable_of_ends hends
    · rintro ⟨item, hacceptable⟩
      obtain ⟨result, hresult, -⟩ :=
        (loggedIn_of_acceptable hacceptable hlisted hkeys).1 _ _ hends
      exact ⟨result, hresult⟩
    · rintro result rfl
      obtain ⟨item, hacceptable⟩ := acceptable_of_ends hends
      obtain ⟨found, hfound, hlogged⟩ :=
        (loggedIn_of_acceptable hacceptable hlisted hkeys).1 _ _ hends
      cases hfound
      exact ⟨item, hacceptable.opened.stored, hlogged⟩
    · intro item hphone hdevice hlimits hopen hwrong
      have hended := ((certain_verifyOTP_of_wrong hphone hdevice hlimits hopen
        hwrong _ _).mp hends).2
      rw [hended]
      exact attemptCounted_of_wrong
  · intro harrives hsupplied
    obtain ⟨outcome, after, history, hruns⟩ :=
      exists_ends_verifyOTP hlisted hkeys hsupplied
    obtain ⟨ended, hstepped, -⟩ :=
      exists_stepped harrives (runs_verifyOTP.mpr hruns)
    exact ⟨history, outcome, ended, hstepped⟩

/-- The first verification of a phone. -/
def firstVerification (pool : Pool) : Pool :=
  served (deployment []) Choice.unfaulted pool 1 (.verifyOTP phone "123456"
      "device-1")
    (accepting ++ registering user session refreshA ++
      minting "33333333-3333-4333-8333-333333333333")

theorem texted_registers :
    (outcomeAt (firstVerification texted) 1).bind verifyResult =
      some (registrationResult (deployment []) phone user session refreshA
        "33333333-3333-4333-8333-333333333333" evening) := by
  decide +kernel

theorem texted_indexed : Indexed texted.store := by
  have husers : texted.store.users.entries = [] := by decide +kernel
  have hindex : texted.store.phoneNumberIndex.entries = [] := by
    decide +kernel
  intro key
  simp [AList.lookup, husers, hindex]

/-- The code that was texted registers its phone. -/
theorem texted_verifies :
    (∃ item, Acceptable (deployment []) texted.store phone "123456" "device-1"
      item) ∧
    ∃ history result ended item,
      Stepped (deployment []) Choice.unfaulted texted 1
        (.verifyOTP phone "123456" "device-1") history
        (.verifyOTP (.ok result)) ended ∧
      LoggedIn (deployment []) texted.store ended.store
        (hashPhone (deployment []) phone) "device-1" item result := by
  obtain ⟨history, hstepped⟩ := stepped_served (by decide +kernel)
    (outcome_of_bind eq_of_verifyResult texted_registers)
  have hexact := (verification_exact (deployment []) evening texted
    (Machine.reach_runTo _) texted_indexed phone "123456" "device-1" 1).1
      history _ _ hstepped
  obtain ⟨item, -, hlogged⟩ := hexact.2.1 _ rfl
  exact ⟨hexact.1.mp ⟨_, rfl⟩, history, _, _, item, hstepped, hlogged⟩

end MessagingPlatform.Verifications
