import MessagingPlatform.App.RefreshSteps
import MessagingPlatform.System.ReportedEnd
import MessagingPlatform.System.SessionOrigins
import MessagingPlatform.System.SingleSteps

/-!
# Listed sessions and refreshable sessions

`ListByUser` keeps the sessions whose expiry is after now, and compares the
texts of whole seconds; `RefreshTokens` refuses a session when now is after its
expiry, and compares instants.  The two differ at the instant of the expiry, and
on a session that a rotation has written after its deletion: it has no user, and
the index does not hold it.
-/

namespace MessagingPlatform.ActiveSessions

open Program
open Interleaving
open OneStep
open Instants
open Records
open Primitives
open Tables
open Operations
open Stores
open StoreSteps
open Flows
open VerifySteps (Supplied)
open RefreshSteps
open Service
open SessionOrigins
open SingleSteps
open ReportedEnd
open Deployment

/-- The index has caught up with the record of a session.  It holds the items
that have its key attributes. -/
def SessionIndexed (store : Store) (sessionID : String) : Prop :=
  store.userSessionsIndex.lookup sessionID =
    (store.sessions.lookup sessionID).filter fun item => item.userID.isSome

/-- The session is in a list. -/
def Shown (sessions : List SessionRecord) (sessionID : String) : Prop :=
  ∃ record ∈ sessions, record.sessionID = sessionID

/-- A session that can be refreshed but is not listed: it expires just now, or
it has lost its user. -/
def Hidden (store : Store) (item : SessionItem) : Prop :=
  ∃ expiry, parse item.expiresAt = some expiry ∧ store.clock ≤ expiry ∧
    (store.clock = expiry ∨ item.userID = none)

variable {cfg : AuthServiceConfig} {store after : Store}
variable {userID sessionID : String} {item : SessionItem}

section Listing

theorem before_iff {now : Time} {text : TimeText} :
    (format now).before text = true ↔
      ∃ expiry, parse text = some expiry ∧ now < expiry := by
  cases text with
  | empty => simp [TimeText.before, parse]
  | rfc3339 unixSecond =>
      have hsecond : (0 : Time) < second := by decide
      simp [format, TimeText.before, parse,
        Int.ediv_lt_iff_lt_mul hsecond]

theorem mem_activeKeys {now : TimeText} :
    sessionID ∈ store.activeKeys userID now ↔
      ∃ item, store.userSessionsIndex.lookup sessionID = some item ∧
        item.userID = some userID ∧ now.before item.expiresAt = true := by
  simp only [Store.activeKeys, List.mem_map, List.mem_filter, Bool.and_eq_true,
    beq_iff_eq]
  constructor
  · rintro ⟨⟨key, item⟩, ⟨hmem, huser, hbefore⟩, rfl⟩
    exact ⟨item, AList.mem_lookup_iff.mpr hmem, huser, hbefore⟩
  · rintro ⟨item, hitem, huser, hbefore⟩
    exact ⟨⟨sessionID, item⟩,
      ⟨AList.mem_lookup_iff.mp hitem, huser, hbefore⟩, rfl⟩

theorem shown_indexedRecords {keys : List String} :
    Shown (indexedRecords store keys) sessionID ↔
      sessionID ∈ keys ∧
        ∃ item, store.userSessionsIndex.lookup sessionID = some item := by
  simp only [Shown, indexedRecords, Store.indexedSessions, List.mem_map,
    List.mem_filterMap, Option.map_eq_some_iff]
  constructor
  · rintro ⟨record, ⟨row, ⟨key, hkey, item, hitem, rfl⟩, rfl⟩, rfl⟩
    exact ⟨hkey, item, hitem⟩
  · rintro ⟨hkey, item, hitem⟩
    exact ⟨_, ⟨_, ⟨sessionID, hkey, item, hitem, rfl⟩, rfl⟩, rfl⟩

/-- What `ListByUser` shows, in terms of the index. -/
theorem shown_iff {sessions : List SessionRecord}
    (hlist : Ends (steps cfg) (listByUser userID).run store (.ok sessions)
      after) :
    Shown sessions sessionID ↔
      ∃ item, store.userSessionsIndex.lookup sessionID = some item ∧
        item.userID = some userID ∧
        ∃ expiry, parse item.expiresAt = some expiry ∧
          store.clock < expiry := by
  obtain ⟨found, heq, -, keys, hperm, rfl⟩ :=
    (returns_listByUser userID _ _).mp hlist
  cases heq
  simp only [shown_indexedRecords, hperm.mem_iff, mem_activeKeys, before_iff]
  constructor
  · exact fun hshown => hshown.1
  · rintro ⟨item, hitem, hrest⟩
    exact ⟨⟨item, hitem, hrest⟩, item, hitem⟩

theorem exists_list (cfg : AuthServiceConfig) (store : Store)
    (userID : String) :
    ∃ sessions after, Ends (steps cfg) (listByUser userID).run store
      (.ok sessions) after :=
  ⟨_, _, (returns_listByUser userID _ _).mpr
    ⟨_, rfl, rfl, _, .refl _, rfl⟩⟩

/-- An indexed session of the user is shown up to its expiry. -/
theorem shown_iff_of_indexed {sessions : List SessionRecord}
    (hlist : Ends (steps cfg) (listByUser userID).run store (.ok sessions)
      after)
    (hindexed : SessionIndexed store sessionID)
    (hstored : store.sessions.lookup sessionID = some item)
    (huser : ∀ found, item.userID = some found → found = userID) :
    Shown sessions sessionID ↔ item.userID ≠ none ∧
      ∃ expiry, parse item.expiresAt = some expiry ∧ store.clock < expiry := by
  rw [shown_iff hlist, hindexed, hstored]
  constructor
  · rintro ⟨found, hfound, hnamed, hunexpired⟩
    obtain ⟨hsame, hsome⟩ := Option.filter_eq_some_iff.mp hfound
    cases hsame
    refine ⟨?_, hunexpired⟩
    rw [hnamed]
    exact Option.some_ne_none _
  · rintro ⟨hsome, hunexpired⟩
    obtain ⟨found, hfound⟩ := Option.ne_none_iff_exists'.mp hsome
    refine ⟨item, Option.filter_eq_some_iff.mpr ⟨rfl, ?_⟩, ?_, hunexpired⟩
    · simp [hfound]
    · rw [hfound, huser found hfound]

end Listing

/-- A stored session that the index has caught up with is listed for the user it
was created for exactly if a refresh with its credentials succeeds, both without
failures at one instant, unless it expires just now or has lost its user.  Both
return, the refresh if the random sources have values left. -/
theorem listed_iff_refreshable (cfg : AuthServiceConfig) (clock : Time)
    (pool : Pool) (hreach : (machine cfg).Reach anyStep (start clock) pool)
    (userID sessionID accessToken refreshToken deviceID : String)
    (item : SessionItem) (id : ℕ)
    (hcreated : (sessionID, userID) ∈ origins SessionItem.userID pool)
    (hindexed : SessionIndexed pool.store sessionID)
    (hpresented : Presented cfg pool.store accessToken refreshToken deviceID
      sessionID item) :
    (∀ sessions listed history outcome ended,
      Ends (steps cfg) (listByUser userID).run pool.store (.ok sessions)
        listed →
      Stepped cfg Choice.unfaulted pool id
        (.refreshTokens accessToken refreshToken deviceID) history
        (.refreshTokens outcome) ended →
      ((Shown sessions sessionID ↔ ∃ result, outcome = .ok result) ↔
        ¬ Hidden pool.store item)) ∧
    (∃ sessions listed, Ends (steps cfg) (listByUser userID).run pool.store
      (.ok sessions) listed) ∧
    (pool.calls.lookup id = none → Supplied pool.store →
      ∃ history outcome ended, Stepped cfg Choice.unfaulted pool id
        (.refreshTokens accessToken refreshToken deviceID) history
        (.refreshTokens outcome) ended) := by
  refine ⟨?_, exists_list cfg _ _, ?_⟩
  · intro sessions listed history outcome ended hlist hrefresh
    have huser : ∀ found, item.userID = some found → found = userID :=
      fun found hfound => origin_unique hreach
        (origin_of_item (fun _ _ => rfl) hreach hpresented.stored hfound)
        hcreated
    rw [shown_iff_of_indexed hlist hindexed hpresented.stored huser,
      refreshes_iff hpresented ⟨_, runs_refreshTokens.mp hrefresh.runs⟩,
      Unexpired, Hidden]
    cases parse item.expiresAt with
    | none => simp
    | some expiry =>
        simp only [Option.some.injEq, exists_eq_left']
        constructor
        · rintro hagree ⟨hunexpired, hnow | hlost⟩
          · exact absurd (hagree.mpr hunexpired).2 (by simp [hnow])
          · exact (hagree.mpr hunexpired).1 hlost
        · intro hshown
          constructor
          · exact fun hlisted => hlisted.2.le
          · intro hunexpired
            exact ⟨fun hlost => hshown ⟨hunexpired, .inr hlost⟩,
              lt_of_le_of_ne hunexpired
                fun hnow => hshown ⟨hunexpired, .inl hnow⟩⟩
  · intro harrives hsupplied
    obtain ⟨outcome, after, history, hruns⟩ :=
      exists_ends_refreshTokens hpresented hsupplied
    obtain ⟨ended, hstepped, -⟩ :=
      exists_stepped harrives (runs_refreshTokens.mpr hruns)
    exact ⟨history, outcome, ended, hstepped⟩

section Runs

/-- A registered phone whose session is indexed, some time later. -/
def indexedAt (now : Time) : Pool :=
  service.runTo anyStep registered
    [.env (.replicateSession session), .env (.tick now)]

/-- A refresh of that session. -/
def refreshedAt (now : Time) : Pool :=
  served (deployment [firstClaims]) Choice.unfaulted (indexedAt now) 2
    (.refreshTokens firstToken refreshA "device-a")
    (rotating refreshB ++ .ok ::
      minting "44444444-4444-4444-8444-444444444444")

/-- What is to be evaluated of these runs: the session is stored and indexed, it
expires 30 days after the registration, and the credentials are its own. -/
def Ready (now : Time) : Prop :=
  (∃ item ∈ (indexedAt now).store.sessions.lookup session,
    parse item.expiresAt = some (evening + refreshTokenLifetime) ∧
    item.userID = some user ∧ item.deviceID.getD "" = "device-a" ∧
    validateRefreshHash (deployment [firstClaims]) refreshA
      item.refreshTokenHash = true) ∧
  SessionIndexed (indexedAt now).store session ∧
  (session, user) ∈ origins SessionItem.userID (indexedAt now) ∧
  (validateIgnoreExpiry (deployment [firstClaims])
    (indexedAt now).store.clock firstToken).toOption = some firstClaims ∧
  (indexedAt now).store.clock = now ∧
  ((indexedAt now).calls.lookup 2).isNone = true ∧
  ((outcomeAt (refreshedAt now) 2).bind rotationReturned).isSome = true

instance (now : Time) : Decidable (Ready now) := by
  unfold Ready SessionIndexed
  infer_instance

theorem reach_indexedAt (now : Time) :
    service.Reach anyStep (start evening) (indexedAt now) :=
  (Machine.reach_runTo _).trans (Machine.reach_runTo _)

/-- Then the credentials are presented and the refresh succeeds. -/
theorem refreshed_of_ready {now : Time} (hready : Ready now) :
    ∃ item, Presented (deployment [firstClaims]) (indexedAt now).store
        firstToken refreshA "device-a" session item ∧
      item.userID = some user ∧
      parse item.expiresAt = some (evening + refreshTokenLifetime) ∧
      ∃ history result ended,
        Stepped (deployment [firstClaims]) Choice.unfaulted (indexedAt now) 2
          (.refreshTokens firstToken refreshA "device-a") history
          (.refreshTokens (.ok result)) ended := by
  obtain ⟨⟨item, hitem, hexpiry, huser, hdevice, hhash⟩, -, -, hvalid, -,
    harrives, hrefreshed⟩ := hready
  obtain ⟨result, hresult⟩ := Option.isSome_iff_exists.mp hrefreshed
  obtain ⟨history, hstepped⟩ := stepped_served
    (Option.isNone_iff_eq_none.mp harrives)
    (outcome_of_bind eq_of_rotationReturned hresult)
  refine ⟨item, ⟨hitem, ⟨firstClaims, ?_, rfl⟩, hdevice, hhash⟩, huser,
    hexpiry, history, result, _, hstepped⟩
  cases hanswer : validateIgnoreExpiry (deployment [firstClaims])
      (indexedAt now).store.clock firstToken with
  | error err =>
      rw [hanswer] at hvalid
      cases hvalid
  | ok claims =>
      rw [hanswer] at hvalid
      exact congrArg _ (Option.some.inj hvalid)

def dayBefore : Time := evening + refreshTokenLifetime - 86400 * second

theorem dayBefore_ready : Ready dayBefore := by decide +kernel

/-- The day before its expiry the session is refreshed and listed. -/
theorem dayBefore_listed :
    ∃ sessions listed history result ended,
      Ends (steps (deployment [firstClaims])) (listByUser user).run
        (indexedAt dayBefore).store (.ok sessions) listed ∧
      Stepped (deployment [firstClaims]) Choice.unfaulted (indexedAt dayBefore)
        2 (.refreshTokens firstToken refreshA "device-a") history
        (.refreshTokens (.ok result)) ended ∧
      Shown sessions session := by
  obtain ⟨item, hpresented, huser, hexpiry, history, result, ended,
    hrefreshed⟩ := refreshed_of_ready dayBefore_ready
  obtain ⟨-, hindexed, hcreated, -, hclock, -⟩ := dayBefore_ready
  obtain ⟨hagree, ⟨sessions, listed, hlist⟩, -⟩ := listed_iff_refreshable
    (deployment [firstClaims]) evening (indexedAt dayBefore)
    (reach_indexedAt dayBefore) user session firstToken refreshA "device-a" item
    2 hcreated hindexed hpresented
  have hnot : ¬ Hidden (indexedAt dayBefore).store item := by
    rintro ⟨expiry, hparse, -, hnow | hlost⟩
    · rw [hexpiry, Option.some.injEq] at hparse
      rw [hclock, ← hparse] at hnow
      exact absurd hnow (by decide)
    · rw [huser] at hlost
      cases hlost
  exact ⟨sessions, listed, history, result, ended, hlist, hrefreshed,
    ((hagree sessions listed history _ ended hlist hrefreshed).mpr hnot).mpr
      ⟨result, rfl⟩⟩

/-- The instant of its expiry. -/
def lastInstant : Time := evening + refreshTokenLifetime

theorem lastInstant_ready : Ready lastInstant := by decide +kernel

/-- At the instant of its expiry the session is refreshed, for another 30 days,
and not listed. -/
theorem lastInstant_hidden :
    ∃ sessions listed history result ended,
      Ends (steps (deployment [firstClaims])) (listByUser user).run
        (indexedAt lastInstant).store (.ok sessions) listed ∧
      Stepped (deployment [firstClaims]) Choice.unfaulted
        (indexedAt lastInstant) 2
        (.refreshTokens firstToken refreshA "device-a") history
        (.refreshTokens (.ok result)) ended ∧
      SessionIndexed (indexedAt lastInstant).store session ∧
      (session, user) ∈
        origins SessionItem.userID (indexedAt lastInstant) ∧
      ¬ Shown sessions session := by
  obtain ⟨item, hpresented, huser, hexpiry, history, result, ended,
    hrefreshed⟩ := refreshed_of_ready lastInstant_ready
  obtain ⟨-, hindexed, hcreated, -, hclock, -⟩ := lastInstant_ready
  obtain ⟨sessions, listed, hlist⟩ :=
    exists_list (deployment [firstClaims]) (indexedAt lastInstant).store user
  refine ⟨sessions, listed, history, result, ended, hlist, hrefreshed, hindexed,
    hcreated, ?_⟩
  have hsame : ∀ found, item.userID = some found → found = user := by
    intro found hfound
    rw [huser] at hfound
    exact Option.some.inj hfound.symm
  rw [shown_iff_of_indexed hlist hindexed hpresented.stored hsame]
  rintro ⟨-, expiry, hparse, hlater⟩
  rw [hexpiry, Option.some.injEq] at hparse
  rw [hclock, ← hparse] at hlater
  exact lt_irrefl _ hlater

end Runs

end MessagingPlatform.ActiveSessions
