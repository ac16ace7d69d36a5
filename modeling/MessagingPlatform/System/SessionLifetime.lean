import MessagingPlatform.System.Commits
import MessagingPlatform.System.Deployment

/-!
# Removed sessions

`SessionStore.Update` writes unconditionally, so a rotation that started before
a session was removed writes it back.  As long as every rotation finds its
session in the table, a removed session stays removed, no later refresh
succeeds for it, and a refresh succeeds only under the device that the session
was created for.
-/

namespace MessagingPlatform.SessionLifetime

open Program
open Interleaving
open Instants
open Primitives
open Tables
open Operations
open Effects
open Freshness
open StoreRules
open SessionRules
open VerifyRules
open Service
open ServiceRules
open MessagingPlatform.Runs
open Commits
open Deployment

variable {cfg : AuthServiceConfig} {admissible : Pool → Label → Prop}
variable {clock : Time} {pool : Pool}

/-- A rotation is written while the table holds its session. -/
def rotationFindsSession (store : Store) (op : Op) : Prop :=
  ∀ rotation ∈ op.rotation, rotation.1 ∈ store.sessions

instance (store : Store) (op : Op) :
    Decidable (rotationFindsSession store op) :=
  inferInstanceAs (Decidable (∀ _ ∈ op.rotation, _))

/-- The step condition under which removed sessions stay removed. -/
def rotationsFindSession : Pool → Label → Prop :=
  whenPerforming rotationFindsSession

instance (pool : Pool) (label : Label) :
    Decidable (rotationsFindSession pool label) :=
  inferInstanceAs (Decidable (whenPerforming rotationFindsSession pool label))

section Creation

/-- The session was created by a verification for the device. -/
def CreatedUnder (pool : Pool) (sessionID deviceID : String) : Prop :=
  ∃ event ∈ pool.log, createdSession event.entry = some sessionID ∧
    ∃ call ∈ pool.calls.lookup event.call,
      call.req.verifyDevice = some deviceID

instance (pool : Pool) (sessionID deviceID : String) :
    Decidable (CreatedUnder pool sessionID deviceID) :=
  inferInstanceAs (Decidable (∃ event ∈ pool.log, _))

theorem CreatedUnder.later {later : Pool} {sessionID deviceID : String}
    (hcreated : CreatedUnder pool sessionID deviceID)
    (hreach : (machine cfg).Reach admissible pool later) :
    CreatedUnder later sessionID deviceID := by
  obtain ⟨event, hevent, hsession, call, hcall, hdevice⟩ := hcreated
  obtain ⟨call', hcall', hreq, -⟩ := hreach.call_persists hcall
  exact ⟨event, hreach.log_suffix.subset hevent, hsession, call', hcall',
    hreq ▸ hdevice⟩

/-- A session is created for one device. -/
theorem CreatedUnder.unique {sessionID deviceID other : String}
    (hreach : (machine cfg).Reach admissible (start clock) pool)
    (hcreated : CreatedUnder pool sessionID deviceID)
    (hother : CreatedUnder pool sessionID other) : other = deviceID := by
  obtain ⟨event, hevent, hsession, call, hcall, hdevice⟩ := hcreated
  obtain ⟨event', hevent', hsession', call', hcall', hdevice'⟩ := hother
  have hsame := event_unique (createdSession_nodup hreach) hevent hevent'
    hsession hsession'
  subst event'
  have hcalls : call = call' := Option.mem_unique hcall hcall'
  rw [← hcalls, hdevice, Option.some.injEq] at hdevice'
  exact hdevice'.symm

end Creation

section Binding

/-- Every session in the table was created by a verification, for the device it
carries. -/
def Bound (pool : Pool) : Prop :=
  ∀ sessionID item, pool.store.sessions.lookup sessionID = some item →
    ∃ deviceID, item.deviceID = some deviceID ∧
      CreatedUnder pool sessionID deviceID

theorem Bound.later {later : Pool} (hbound : Bound pool)
    (hreach : (machine cfg).Reach admissible pool later)
    (hsessions : ∀ sessionID item,
      later.store.sessions.lookup sessionID = some item →
        ∃ old, pool.store.sessions.lookup sessionID = some old ∧
          item.deviceID = old.deviceID) : Bound later := by
  intro sessionID item hitem
  obtain ⟨old, hold, hdevice⟩ := hsessions sessionID item hitem
  obtain ⟨deviceID, holdDevice, hcreated⟩ := hbound sessionID old hold
  exact ⟨deviceID, hdevice.trans holdDevice, hcreated.later hreach⟩

theorem bound_exec {id : ℕ} {call : Call} {op : Op}
    {next : op.Res → Prog Op Op.Res Outcome} {response : op.Res}
    {after : Store} (hbound : Bound pool)
    (hexec : Exec cfg pool id call op response after)
    (hcondition : rotationFindsSession pool.store op)
    (hreach : (machine cfg).Reach admissible pool
      (pool.execCall id call op next response after)) :
    Bound (pool.execCall id call op next response after) := by
  have heffect := hexec.effect
  cases heffect with
  | sessionUpdated sessionID update =>
      apply hbound.later hreach
      intro other item hitem
      by_cases hother : other = sessionID
      · subst other
        obtain ⟨old, hold⟩ := Option.isSome_iff_exists.mp
          (AList.lookup_isSome.mpr (hcondition _ rfl))
        simp only [Pool.execCall, AList.lookup_insert,
          Option.some.injEq] at hitem
        refine ⟨old, hold, ?_⟩
        rw [← hitem, hold]
        rfl
      · simp only [Pool.execCall, AList.lookup_insert_ne hother] at hitem
        exact ⟨item, hitem, rfl⟩
  | sessionDeleted sessionID =>
      apply hbound.later hreach
      intro other item hitem
      by_cases hother : other = sessionID
      · subst other
        simp [Pool.execCall] at hitem
      · simp only [Pool.execCall, AList.lookup_erase_ne hother] at hitem
        exact ⟨item, hitem, rfl⟩
  | committed items hholds =>
      obtain ⟨phone, otpCandidate, deviceID, tried, created, userID, item,
        hreq, hcommit⟩ := commit_of_exec hexec
      intro other found hfound
      simp only [Pool.execCall, hcommit.sessions] at hfound
      by_cases hother : other = created.sessionID
      · subst other
        rw [AList.lookup_insert, Option.some.injEq] at hfound
        subst found
        refine ⟨deviceID, rfl, _, List.mem_cons_self, ?_, _,
          AList.lookup_insert _, ?_⟩
        · simp [createdSession, createdSessions, hcommit.proposal.creates]
        · rw [hreq]
          rfl
      · rw [AList.lookup_insert_ne hother] at hfound
        obtain ⟨device, hdevice, hcreated⟩ := hbound other found hfound
        exact ⟨device, hdevice, hcreated.later hreach⟩
  | _ => exact hbound.later hreach fun other item hitem => ⟨item, hitem, rfl⟩

theorem bound
    (hreach : (machine cfg).Reach rotationsFindSession (start clock) pool) :
    Bound pool := by
  refine invariant ?_ ?_ ?_ ?_ hreach
  · intro sessionID item hitem
    simp [start, Pool.initial, Store.empty] at hitem
  · intro pool id req _ ih _ _ hlater
    exact ih.later hlater fun other item hitem => ⟨item, hitem, rfl⟩
  · intro pool id choice call op next response after _ ih hexec hcondition
      hlater
    exact bound_exec ih hexec (hcondition op hexec.nextOp) hlater
  · intro pool change after _ ih hadvance _ hlater
    apply ih.later hlater
    intro other item hitem
    rw [(framed_of_advance hadvance).sessions] at hitem
    exact ⟨item, hitem, rfl⟩

/-- Whatever session a call has read was created for the device it read. -/
theorem read_bound
    (hreach : (machine cfg).Reach rotationsFindSession (start clock) pool)
    {id : ℕ} {call : Call} (hcall : pool.calls.lookup id = some call)
    {sessionID : String} {item : SessionItem}
    (hread : (⟨.sessionsGetItem sessionID, .ok (some item)⟩ : Entry) ∈
      call.history) :
    ∃ deviceID, item.deviceID = some deviceID ∧
      CreatedUnder pool sessionID deviceID := by
  refine forall_entries (F := fun pool entry => ∀ sessionID item,
    entry = ⟨.sessionsGetItem sessionID, .ok (some item)⟩ →
      ∃ deviceID, item.deviceID = some deviceID ∧
        CreatedUnder pool sessionID deviceID)
    ?_ ?_ hreach hcall _ hread sessionID item rfl
  · intro pool later entry hfact hlater sessionID item hentry
    obtain ⟨deviceID, hdevice, hcreated⟩ := hfact sessionID item hentry
    exact ⟨deviceID, hdevice, hcreated.later hlater⟩
  · intro pool id choice call op next response after hpool hexec _ hlater
      sessionID item
      hentry
    cases hentry
    obtain ⟨deviceID, hdevice, hcreated⟩ :=
      bound hpool sessionID item hexec.answers.symm
    exact ⟨deviceID, hdevice, hcreated.later hlater⟩

end Binding

section Removal

variable {removed : Pool} {sessionID : String}

/-- Of a session that is gone from the table, no request puts an item back. -/
theorem absent_exec {id : ℕ} {call : Call} {op : Op} {response : op.Res}
    {after : Store} (hexec : Exec cfg pool id call op response after)
    (hcondition : rotationFindsSession pool.store op)
    (habsent : pool.store.sessions.lookup sessionID = none)
    (hcreated : createdSession ⟨op, response⟩ ≠ some sessionID) :
    after.sessions.lookup sessionID = none := by
  have heffect := hexec.effect
  cases heffect with
  | sessionUpdated other update =>
      have hother : sessionID ≠ other := by
        intro heq
        subst other
        exact absurd (hcondition _ rfl) (AList.lookup_eq_none.mp habsent)
      simpa [AList.lookup_insert_ne hother] using habsent
  | sessionDeleted other =>
      by_cases hother : sessionID = other
      · subst other
        exact AList.lookup_erase _ _
      · simpa [AList.lookup_erase_ne hother] using habsent
  | committed items hholds =>
      obtain ⟨phone, otpCandidate, deviceID, tried, created, userID, item,
        hreq, hcommit⟩ := commit_of_exec hexec
      have hother : sessionID ≠ created.sessionID := by
        intro heq
        apply hcreated
        simp [createdSession, createdSessions, hcommit.proposal.creates, heq]
      rw [hcommit.sessions, AList.lookup_insert_ne hother]
      exact habsent
  | _ => exact habsent

/-- What holds after the removal: the session is absent, and nobody has read it
since. -/
def StaysRemoved (removed : Pool) (sessionID : String) (pool : Pool) : Prop :=
  pool.store.sessions.lookup sessionID = none ∧
    ∃ newer, pool.log = newer ++ removed.log ∧ ∀ event ∈ newer, ∀ item,
      event.entry ≠ ⟨.sessionsGetItem sessionID, .ok (some item)⟩

theorem staysRemoved
    (hremoved : (machine cfg).Reach rotationsFindSession (start clock) removed)
    (hcreated : sessionID ∈ mentioned createdSession removed.log)
    (habsent : removed.store.sessions.lookup sessionID = none)
    (hreach : (machine cfg).Reach rotationsFindSession removed pool) :
    StaysRemoved removed sessionID pool := by
  refine invariant_from hremoved ?_ ?_ ?_ ?_ hreach
  · exact ⟨habsent, [], rfl, fun event hevent => by cases hevent⟩
  · intro pool id req _ ih _ _ _
    exact ih
  · intro pool id choice call op next response after hpool ih hexec hcondition
      hlater
    obtain ⟨hgone, newer, hlog, hreads⟩ := ih
    have hnodup := createdSession_nodup
      ((hremoved.trans hpool).trans hlater)
    have hnotCreated : createdSession ⟨op, response⟩ ≠ some sessionID := by
      intro hagain
      rw [Pool.execCall, mentioned_cons, hagain] at hnodup
      apply (List.nodup_cons.mp hnodup).1
      obtain ⟨event, hevent, hvalue⟩ := mem_mentioned.mp hcreated
      exact mem_mentioned.mpr ⟨event, hpool.log_suffix.subset hevent, hvalue⟩
    refine ⟨absent_exec hexec (hcondition op hexec.nextOp) hgone hnotCreated,
      ⟨id, call.history, ⟨op, response⟩, pool.store, after⟩ :: newer, ?_, ?_⟩
    · rw [Pool.execCall, hlog, List.cons_append]
    · intro event hevent item hentry
      rcases List.mem_cons.mp hevent with rfl | hold
      · cases hentry
        have hread := hexec.answers
        rw [Answers, hgone] at hread
        cases hread
      · exact hreads event hold item hentry
  · intro pool change after _ ih hadvance _ _
    obtain ⟨hgone, hlog⟩ := ih
    refine ⟨?_, hlog⟩
    change after.sessions.lookup sessionID = none
    rw [(framed_of_advance hadvance).sessions]
    exact hgone

/-- The only session read of a refresh that succeeded. -/
theorem read_of_refresh {accessToken refreshToken deviceID : String}
    {reached : History} {result : Records.RefreshResult}
    (hpost : refreshPost cfg accessToken refreshToken deviceID reached
      (.ok result)) :
    ∃ look : Lookup, look.Valid cfg accessToken deviceID ∧
      (⟨.sessionsGetItem look.claims.sessionID, .ok (some look.item)⟩ :
        Entry) ∈ reached ∧
      ∀ sessionID response,
        (⟨.sessionsGetItem sessionID, response⟩ : Entry) ∈ reached →
          (⟨.sessionsGetItem sessionID, response⟩ : Entry) =
            ⟨.sessionsGetItem look.claims.sessionID,
              .ok (some look.item)⟩ := by
  obtain ⟨look, now, added, hcurrent, hadded, hreached⟩ := hpost
  refine ⟨look, hcurrent.toValid, ?_, ?_⟩
  · rw [hreached]
    simp [Lookup.rotatingEntries, Lookup.entries]
  · intro sessionID response hread
    rw [hreached] at hread
    rcases List.mem_append.mp hread with hmint | hrest
    · exact absurd (hadded _ hmint) (by simp [isMint])
    · simpa [Lookup.rotatingEntries, Lookup.entries] using hrest

/-- A refresh that reads the session after its removal fails. -/
theorem refresh_fails_of_read
    (hreach : (machine cfg).Reach admissible (start clock) pool)
    (hremoved : StaysRemoved removed sessionID pool)
    {newer : List Event} (hlog : pool.log = newer ++ removed.log)
    {event : Event} (hevent : event ∈ newer)
    (hread : event.entry.1 = .sessionsGetItem sessionID) {call : Call}
    (hcall : pool.calls.lookup event.call = some call) :
    refreshResult call = none := by
  apply Option.eq_none_iff_forall_ne_some.mpr
  intro result hresult
  have hpost := hreach.post_of_returned (sat_program cfg) hcall
    (rest_of_refreshResult hresult)
  obtain ⟨response, hentryRead⟩ : ∃ response : Op.Res
      (.sessionsGetItem sessionID), event.entry =
        ⟨.sessionsGetItem sessionID, response⟩ := by
    rcases hentry : event.entry with ⟨op, response⟩
    rw [hentry] at hread
    subst hread
    exact ⟨response, rfl⟩
  obtain ⟨-, newer', hlog', hreads⟩ := hremoved
  have hnewer : newer' = newer := by
    rw [hlog] at hlog'
    exact (List.append_cancel_right hlog').symm
  subst newer'
  have hmem : event ∈ pool.log := by
    rw [hlog]
    exact List.mem_append_left _ hevent
  obtain ⟨call', hcall', hsuffix⟩ := hreach.logSound.recorded event hmem
  rw [hcall, Option.some.injEq] at hcall'
  subst call'
  have hentry : (⟨.sessionsGetItem sessionID, response⟩ : Entry) ∈
      call.history := by
    rw [← hentryRead]
    exact hsuffix.subset List.mem_cons_self
  cases hreq : call.req with
  | refreshTokens accessToken refreshToken deviceID =>
      rw [hreq] at hpost
      obtain ⟨look, -, -, honly⟩ := read_of_refresh hpost
      have heq := honly sessionID response hentry
      have hsession : sessionID = look.claims.sessionID := by
        injection heq with hop
        injection hop
      subst hsession
      exact hreads event hevent look.item (hentryRead.trans heq)
  | _ => rw [hreq] at hpost; exact hpost

end Removal

/-- In every run in which each rotation finds its session, a session that some
step removes from the table stays away for good, every refresh that reads it
afterwards fails, and every refresh that succeeds was called with the device
for which its session was created. -/
theorem removed_sessions_stay_removed (cfg : AuthServiceConfig)
    (clock : Time) :
    (∀ before label removed pool sessionID,
      (machine cfg).Reach rotationsFindSession (start clock) before →
      sessionID ∈ before.store.sessions →
      rotationsFindSession before label →
      (machine cfg).step before label = some removed →
      sessionID ∉ removed.store.sessions →
      (machine cfg).Reach rotationsFindSession removed pool →
      sessionID ∉ pool.store.sessions ∧
        ∀ newer event call, pool.log = newer ++ removed.log → event ∈ newer →
          event.entry.1 = .sessionsGetItem sessionID →
          pool.calls.lookup event.call = some call →
          refreshResult call = none) ∧
    (∀ pool id call accessToken refreshToken deviceID result,
      (machine cfg).Reach rotationsFindSession (start clock) pool →
      pool.calls.lookup id = some call →
      call.req = .refreshTokens accessToken refreshToken deviceID →
      refreshResult call = some result →
      ∃ now claims, validateIgnoreExpiry cfg now accessToken = .ok claims ∧
        CreatedUnder pool claims.sessionID deviceID ∧
        ∀ other, CreatedUnder pool claims.sessionID other →
          other = deviceID) := by
  constructor
  · intro before label removed pool sessionID hbefore hheld hlabel hstep
      hremoved hreach
    obtain ⟨item, hitem⟩ := Option.isSome_iff_exists.mp
      (AList.lookup_isSome.mpr hheld)
    obtain ⟨deviceID, -, event, hevent, hsession, -⟩ :=
      bound hbefore sessionID item hitem
    have hlater : (machine cfg).Reach rotationsFindSession before removed :=
      Machine.Reach.refl.step hlabel hstep
    have hstays : StaysRemoved removed sessionID pool := by
      apply staysRemoved (hbefore.trans hlater) ?_ ?_ hreach
      · exact mem_mentioned.mpr
          ⟨event, hlater.log_suffix.subset hevent, hsession⟩
      · exact AList.lookup_eq_none.mpr hremoved
    refine ⟨AList.lookup_eq_none.mp hstays.1, ?_⟩
    intro newer event call hlog hevent hread hcall
    exact refresh_fails_of_read ((hbefore.trans hlater).trans hreach) hstays
      hlog hevent hread hcall
  · intro pool id call accessToken refreshToken deviceID result hreach hcall
      hreq hresult
    have hpost := hreach.post_of_returned (sat_program cfg) hcall
      (rest_of_refreshResult hresult)
    rw [hreq] at hpost
    obtain ⟨look, hvalid, hread, -⟩ := read_of_refresh hpost
    obtain ⟨device, hdevice, hcreated⟩ := read_bound hreach hcall hread
    have hsame : device = deviceID := by
      rw [← hvalid.bound, hdevice]
      rfl
    subst device
    exact ⟨look.validatedAt, look.claims, hvalid.validated, hcreated,
      fun other hother => hcreated.unique hreach hother⟩

section Schedules

/-- A refresh has succeeded, and a logout is about to delete the session. -/
def refreshedOnce : Pool :=
  (machine (deployment [firstClaims])).runTo rotationsFindSession
    (start evening)
    (registration ++
      serve 2 (.refreshTokens (tokenText firstClaims) refreshA "device-a")
        (rotating refreshB ++
          .ok :: minting "44444444-4444-4444-8444-444444444444") ++
      serve 3 (.logout (tokenText firstClaims)) [.ok])

/-- The logout has deleted the session. -/
def closed : Pool :=
  ((machine (deployment [firstClaims])).step refreshedOnce (.exec 3 .ok)).getD
    refreshedOnce

/-- A refresh after the deletion has been refused. -/
def refused : Pool :=
  (machine (deployment [firstClaims])).runTo rotationsFindSession closed
    (resume 3 [.ok] ++
      serve 4 (.refreshTokens (tokenText firstClaims) refreshB "device-a")
        [.ok, .ok])

theorem closed_session_stays_removed :
    session ∉ refused.store.sessions ∧
      (∃ call ∈ refused.calls.lookup 4, refreshResult call = none) ∧
      ∃ now claims, validateIgnoreExpiry (deployment [firstClaims]) now
          (tokenText firstClaims) = .ok claims ∧
        CreatedUnder refreshedOnce claims.sessionID "device-a" ∧
        ∀ other, CreatedUnder refreshedOnce claims.sessionID other →
          other = "device-a" := by
  have hreach : (machine (deployment [firstClaims])).Reach
      rotationsFindSession (start evening) refreshedOnce :=
    Machine.reach_runTo _
  have hrefused : (machine (deployment [firstClaims])).Reach
      rotationsFindSession closed refused := Machine.reach_runTo _
  have hfacts : (∃ call ∈ refreshedOnce.calls.lookup 2,
        call.req = .refreshTokens (tokenText firstClaims) refreshA
          "device-a" ∧ (refreshResult call).isSome = true) ∧
      session ∈ refreshedOnce.store.sessions ∧
      rotationsFindSession refreshedOnce (.exec 3 .ok) ∧
      ((machine (deployment [firstClaims])).step refreshedOnce
        (.exec 3 .ok)).isSome = true ∧
      session ∉ closed.store.sessions ∧
      (∃ event ∈ refused.log.take (refused.log.length - closed.log.length),
        event.entry.1 = .sessionsGetItem session ∧ event.call = 4) ∧
      (refused.calls.lookup 4).isSome = true := by decide +kernel
  obtain ⟨⟨call, hcall, hreq, hresult⟩, hheld, hlabel, hstep, hremoved,
    ⟨event, hevent, hread, hid⟩, hlast⟩ := hfacts
  obtain ⟨result, hresult⟩ := Option.isSome_iff_exists.mp hresult
  obtain ⟨last, hlast⟩ := Option.isSome_iff_exists.mp hlast
  have hlog := List.suffix_iff_eq_append.mp hrefused.log_suffix
  have hafter := (removed_sessions_stay_removed (deployment [firstClaims])
    evening).1 refreshedOnce (.exec 3 .ok) closed refused session hreach hheld
    hlabel (Option.getD_of_ne_none (Option.isSome_iff_ne_none.mp hstep) _).symm
    hremoved hrefused
  exact ⟨hafter.1,
    ⟨last, hlast, hafter.2 _ event last hlog.symm hevent hread
      (hid.symm ▸ hlast)⟩,
    (removed_sessions_stay_removed (deployment [firstClaims]) evening).2
      refreshedOnce 2 call _ _ _ result hreach hcall hreq hresult⟩

/-- A refresh that has read the session and not yet written it, and a logout
that is about to delete it. -/
def overtaken : Pool :=
  (machine (deployment [firstClaims])).runTo withoutFaults (start evening)
    (registration ++
      serve 2 (.refreshTokens (tokenText firstClaims) refreshA "device-a")
        (rotating refreshB) ++
      serve 3 (.logout (tokenText firstClaims)) [.ok])

def loggedOut : Pool :=
  ((machine (deployment [firstClaims])).step overtaken (.exec 3 .ok)).getD
    overtaken

/-- The logout and the refresh have returned, and somebody who sent no device
has refreshed. -/
def refreshedAgain : Pool :=
  (machine (deployment [firstClaims])).runTo withoutFaults loggedOut
    (resume 3 [.ok] ++
      resume 2 (.ok :: minting "44444444-4444-4444-8444-444444444444") ++
      serve 4 (.refreshTokens (tokenText firstClaims) refreshB "")
        (rotating refreshC ++
          .ok :: minting "55555555-5555-4555-8555-555555555555"))

/-- Without the condition the property fails: the refresh writes back the
session that the logout has deleted, without its device, and a refresh that
starts after the deletion succeeds under no device at all. -/
theorem rotation_restores_removed_session :
    (machine (deployment [firstClaims])).Reach withoutFaults (start evening)
        overtaken ∧
      (machine (deployment [firstClaims])).step overtaken (.exec 3 .ok) =
        some loggedOut ∧
      (machine (deployment [firstClaims])).Reach withoutFaults loggedOut
        refreshedAgain ∧
      session ∈ overtaken.store.sessions ∧
      session ∉ loggedOut.store.sessions ∧
      session ∈ refreshedAgain.store.sessions ∧
      CreatedUnder refreshedAgain session "device-a" ∧
      (∃ call ∈ refreshedAgain.calls.lookup 4,
        call.req = .refreshTokens (tokenText firstClaims) refreshB "" ∧
        (refreshResult call).isSome = true) ∧
      ∃ newer, refreshedAgain.log = newer ++ loggedOut.log ∧
        ∃ event ∈ newer, event.entry.1 = .sessionsGetItem session ∧
          event.call = 4 := by
  have hreach : (machine (deployment [firstClaims])).Reach withoutFaults
      loggedOut refreshedAgain := Machine.reach_runTo _
  have hlog := List.suffix_iff_eq_append.mp hreach.log_suffix
  have hfacts : ((machine (deployment [firstClaims])).step overtaken
        (.exec 3 .ok)).isSome = true ∧
      session ∈ overtaken.store.sessions ∧
      session ∉ loggedOut.store.sessions ∧
      session ∈ refreshedAgain.store.sessions ∧
      CreatedUnder refreshedAgain session "device-a" ∧
      (∃ call ∈ refreshedAgain.calls.lookup 4,
        call.req = .refreshTokens (tokenText firstClaims) refreshB "" ∧
        (refreshResult call).isSome = true) ∧
      ∃ event ∈ refreshedAgain.log.take
          (refreshedAgain.log.length - loggedOut.log.length),
        event.entry.1 = .sessionsGetItem session ∧ event.call = 4 := by
    decide +kernel
  obtain ⟨hstep, hheld, hremoved, hback, hcreated, hcall, hread⟩ := hfacts
  exact ⟨Machine.reach_runTo _,
    (Option.getD_of_ne_none (Option.isSome_iff_ne_none.mp hstep) _).symm,
    hreach, hheld, hremoved, hback, hcreated, hcall, _, hlog.symm, hread⟩

end Schedules

end MessagingPlatform.SessionLifetime
