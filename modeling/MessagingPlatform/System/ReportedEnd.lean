import MessagingPlatform.System.SessionLifetime
import MessagingPlatform.System.TokenSubjects
import MessagingPlatform.System.WholeCalls

/-!
# Reported ends of sessions

A logout that returns no error and a refresh that reports a reused token tell
their callers that the session has ended.  Both have asked for its deletion,
and neither looks at the answer.  The session is gone exactly if the deletion
did not fail, or if there was no session.
-/

namespace MessagingPlatform.ReportedEnd

open Program
open Interleaving
open Instants
open Primitives
open Tables
open Operations
open Effects
open Freshness
open MessagingPlatform.Sequential
open Stores
open SessionRules
open Service
open ServiceRules
open MessagingPlatform.Runs
open Commits
open WholeCalls
open SessionLifetime
open TokenSubjects
open Deployment

section Definitions

/-- The session that the access token of a call names, at the time that the
call has read. -/
def namedSession (cfg : AuthServiceConfig) (call : Call) : Option String :=
  match call.history.getLast? with
  | some ⟨.clockNow, now⟩ =>
      (validated cfg now call.req).map fun presented => presented.2.sessionID
  | _ => none

/-- A logout that has returned no error, or a refresh that has returned
`ErrRefreshTokenReuse`. -/
def reportsEnd (call : Call) : Bool :=
  match call.rest with
  | .pure (.logout (.ok ())) => true
  | .pure (.refreshTokens (.error (.sentinel .errRefreshTokenReuse))) => true
  | _ => false

/-- The call has deleted the session. -/
def deletes (call : Call) (sessionID : String) : Bool :=
  call.history.any (deletion sessionID)

end Definitions

variable {cfg : AuthServiceConfig} {admissible : Pool → Label → Prop}
variable {clock : Time} {pool : Pool}

section Histories

variable {id : ℕ} {call : Call} {sessionID : String}

/-- The session that the claims of a refresh name. -/
theorem namedSession_of_validated
    {accessToken refreshToken deviceID : String} {validatedAt : Time}
    {claims : Claims}
    (hreq : call.req = .refreshTokens accessToken refreshToken deviceID)
    (hvalidated : validateIgnoreExpiry cfg validatedAt accessToken =
      .ok claims)
    (hfirst : [⟨.clockNow, validatedAt⟩] <:+ call.history) :
    namedSession cfg call = some claims.sessionID := by
  obtain ⟨newer, hhistory⟩ := hfirst
  simp [namedSession, ← hhistory, hreq, validated, hvalidated,
    Except.toOption]

theorem Lookup.validated_first (look : Lookup) (newer : History) :
    [⟨.clockNow, look.validatedAt⟩] <:+ newer ++ look.entries :=
  ⟨newer ++ [⟨.clockNow, look.now⟩,
    ⟨.sessionsGetItem look.claims.sessionID, .ok (some look.item)⟩],
    by simp [Lookup.entries]⟩

/-- A call that reports the end of a session has performed reads, the deletion
of the session and the revocation of the token, and nothing else. -/
theorem history_of_end
    (hreach : (machine cfg).Reach admissible (start clock) pool)
    (hcall : pool.calls.lookup id = some call)
    (hends : reportsEnd call = true)
    (hnamed : namedSession cfg call = some sessionID) :
    ∃ (jti : String)
      (revoked : Op.Res (.redisSet (.revokedJTI jti) revokedJTITTL))
      (deleted : Op.Res (.sessionsDeleteItem sessionID)) (reads : History),
      call.history = ⟨.redisSet (.revokedJTI jti) revokedJTITTL, revoked⟩ ::
        ⟨.sessionsDeleteItem sessionID, deleted⟩ :: reads ∧
      ∀ entry ∈ reads, keepsTables entry = true ∧
        deletion sessionID entry = false := by
  unfold reportsEnd at hends
  split at hends
  · next hrest =>
      have hpost := hreach.post_of_returned (sat_program cfg) hcall hrest
      cases hreq : call.req with
      | logout accessToken =>
          rw [hreq] at hpost
          obtain ⟨now, claims, deleted, hvalidated, hhistory⟩ := hpost
          simp only [namedSession, hhistory, hreq, validated, hvalidated,
            List.getLast?_cons_cons, List.getLast?_singleton,
            Except.toOption, Option.map_some, Option.some.injEq] at hnamed
          subst hnamed
          exact ⟨claims.id, _, deleted, _, hhistory,
            by simp [keepsTables, deletion]⟩
      | _ => exact (hreq ▸ hpost).elim
  · next hrest =>
      have hpost := hreach.post_of_returned (sat_program cfg) hcall hrest
      cases hreq : call.req with
      | refreshTokens accessToken refreshToken deviceID =>
          rw [hreq] at hpost
          obtain ⟨look, deleted, revoked, hreused, hhistory⟩ :=
            reused_of_failed hpost
          have hfirst : [⟨.clockNow, look.validatedAt⟩] <:+ call.history := by
            rw [hhistory]
            exact Lookup.validated_first look [_, _]
          rw [namedSession_of_validated hreq hreused.validated hfirst,
            Option.some.injEq] at hnamed
          subst hnamed
          exact ⟨look.claims.id, revoked, deleted, _, hhistory,
            by simp [Lookup.entries, keepsTables, deletion]⟩
      | _ => exact (hreq ▸ hpost).elim
  · cases hends

/-- A refresh that succeeds has rotated the session that its token names, which
had not expired. -/
theorem rotation_of_refreshed {result : Records.RefreshResult}
    (hreach : (machine cfg).Reach admissible (start clock) pool)
    (hcall : pool.calls.lookup id = some call)
    (hresult : refreshResult call = some result) :
    ∃ (look : Lookup) (now : Time) (added : History),
      namedSession cfg call = some look.claims.sessionID ∧
      (∃ expiry, parse look.item.expiresAt = some expiry ∧
        look.now ≤ expiry) ∧
      call.history = added ++ ⟨.sessionsUpdateItem look.claims.sessionID
        (look.rotation cfg result.refreshToken now), .ok ()⟩ ::
        look.rotatingEntries result.refreshToken now := by
  have hpost := hreach.post_of_returned (sat_program cfg) hcall
    (rest_of_refreshResult hresult)
  cases hreq : call.req with
  | refreshTokens accessToken refreshToken deviceID =>
      rw [hreq] at hpost
      obtain ⟨look, now, added, hcurrent, -, hhistory⟩ := hpost
      refine ⟨look, now, added, ?_, hcurrent.unexpired, hhistory⟩
      apply namedSession_of_validated hreq hcurrent.validated
      rw [hhistory]
      exact (Lookup.validated_first look [_, _, _]).trans
        (List.suffix_append added _)
  | _ => exact (hreq ▸ hpost).elim

/-- A refresh that succeeds has read the session that its token names. -/
theorem read_of_named {result : Records.RefreshResult}
    (hreach : (machine cfg).Reach admissible (start clock) pool)
    (hcall : pool.calls.lookup id = some call)
    (hresult : refreshResult call = some result)
    (hnamed : namedSession cfg call = some sessionID) :
    ∃ item, (⟨.sessionsGetItem sessionID, .ok (some item)⟩ : Entry) ∈
      call.history := by
  obtain ⟨look, now, added, hlook, -, hhistory⟩ :=
    rotation_of_refreshed hreach hcall hresult
  rw [hlook, Option.some.injEq] at hnamed
  subst hnamed
  refine ⟨look.item, ?_⟩
  rw [hhistory]
  simp [Lookup.rotatingEntries, Lookup.entries]

end Histories

section Ends

variable {first ended : Pool} {id : ℕ} {call : Call} {sessionID : String}

/-- The session is gone when its end is reported exactly if it was deleted, or
was not there. -/
theorem absent_iff (hbase : (machine cfg).Reach anyStep (start clock) first)
    (hserved : Served cfg anyStep first ended id call)
    (hends : reportsEnd call = true)
    (hnamed : namedSession cfg call = some sessionID) :
    ended.store.sessions.lookup sessionID = none ↔
      deletes call sessionID = true ∨
        first.store.sessions.lookup sessionID = none := by
  obtain ⟨jti, revoked, deleted, reads, hhistory, hreads⟩ :=
    history_of_end (hserved.reach hbase) hserved.lookup hends hnamed
  have hsolo := hserved.solo (fun _ _ _ _ => (trivial : True))
  rw [hhistory] at hsolo
  obtain ⟨revoking, -, afterRevoking, hsolo, -, -, hrevoked, hsame⟩ :=
    last_effect hsolo
  obtain ⟨deleting, -, afterDeleting, hsolo, -, -, hdeleted, hkept⟩ :=
    last_effect hsolo
  have hbefore := sameTables_of_solo hsolo fun entry hentry =>
    (hreads entry hentry).1
  have hrevoking : afterRevoking.sessions = revoking.sessions := by
    cases hrevoked <;> rfl
  have hsessions : ended.store.sessions = afterDeleting.sessions :=
    hsame.sessions.trans (hrevoking.trans hkept.sessions)
  have hdeletes : deletes call sessionID = true ↔ deleted = .ok () := by
    have hreading : reads.any (deletion sessionID) = false :=
      List.any_eq_false.mpr fun entry hentry =>
        Bool.eq_false_iff.mp (hreads entry hentry).2
    rw [deletes, hhistory, List.any_cons, List.any_cons, hreading]
    cases deleted with
    | ok | error => simp [deletion]
  rw [hsessions, hdeletes, ← hbefore.sessions]
  cases hdeleted with
  | sessionDeleted => simp
  | unchanged hkeeps =>
      cases deleted with
      | ok done => cases hkeeps
      | error cause => simp

/-- After a session has gone, no refresh that arrives for it succeeds. -/
theorem refresh_fails_of_gone {later : Pool} {other : ℕ} {refresh : Call}
    (hreach : (machine cfg).Reach admissible (start clock) later)
    (hgone : Gone ended sessionID later)
    (harrives : ended.calls.lookup other = none)
    (hrefresh : later.calls.lookup other = some refresh)
    (hnamed : namedSession cfg refresh = some sessionID) :
    refreshResult refresh = none := by
  apply Option.eq_none_iff_forall_ne_some.mpr
  intro result hresult
  obtain ⟨item, hread⟩ := read_of_named hreach hrefresh hresult hnamed
  exact hgone.2 other refresh harrives hrefresh item hread

end Ends

/-- A call that reports the end of a session, run as a whole from any state
that the service can reach, leaves the session out of the table exactly if its
deletion did not fail or the session was not there.  Then no refresh for the
session succeeds in any continuation by whole calls. -/
theorem reported_end_iff_deleted (cfg : AuthServiceConfig) (clock : Time)
    (first ended : Pool) (id : ℕ) (call : Call) (sessionID : String)
    (hbase : (machine cfg).Reach anyStep (start clock) first)
    (hserved : Served cfg anyStep first ended id call)
    (hends : reportsEnd call = true)
    (hnamed : namedSession cfg call = some sessionID) :
    (ended.store.sessions.lookup sessionID = none ↔
      deletes call sessionID = true ∨
        first.store.sessions.lookup sessionID = none) ∧
    (deletes call sessionID = true ∨
        first.store.sessions.lookup sessionID = none →
      sessionID ∈ mentioned createdSession first.log →
      ∀ later other refresh, (machine cfg).Reach oneByOne ended later →
        ended.calls.lookup other = none →
        later.calls.lookup other = some refresh →
        namedSession cfg refresh = some sessionID →
          later.store.sessions.lookup sessionID = none ∧
            refreshResult refresh = none) := by
  have habsent := absent_iff hbase hserved hends hnamed
  refine ⟨habsent, ?_⟩
  intro hdeleted hcreated later other refresh hreach harrives hrefresh hnames
  have hended := hserved.reach hbase
  have hlog : first.log <:+ ended.log := hserved.alone.log_suffix
  have hgone : Gone ended sessionID later :=
    gone_stays hended hserved.quiescent_ended (fun _ _ hallowed => hallowed)
      .refl ((hlog.filterMap _).subset hcreated) (habsent.mpr hdeleted) hreach
  exact ⟨hgone.1, refresh_fails_of_gone (reach_anyStep hended hreach) hgone
    harrives hrefresh hnames⟩

section Schedules

def firstToken : String := tokenText firstClaims

def service : Machine Store Op Op.Res Choice Operations.Env Request Outcome :=
  machine (deployment [firstClaims])

/-- A call that runs alone from a pool on. -/
def servedFrom (first : Pool) (id : ℕ) (req : Request)
    (choices : List Choice) : Pool :=
  service.runTo (fun current label =>
      anyStep current label ∧ noArrival current label)
    (first.startCall service id req) (resume id choices)

theorem reach_servedFrom (first : Pool) (id : ℕ) (req : Request)
    (choices : List Choice) :
    service.Reach (fun current label =>
        anyStep current label ∧ noArrival current label)
      (first.startCall service id req) (servedFrom first id req choices) :=
  Machine.reach_runTo _

/-- A registered phone. -/
def registered : Pool := service.runTo anyStep (start evening) registration

/-- Its logout, with an answer of the sessions table to the deletion. -/
def loggedOutWith (answer : Choice) : Pool :=
  servedFrom registered 2 (.logout firstToken) [.ok, answer, .ok]

/-- A refresh that succeeds if the session is still there. -/
def refreshing (id : ℕ) (refreshToken newRefresh jti : String) : List Label :=
  serve id (.refreshTokens firstToken refreshToken "device-a")
    (rotating newRefresh ++ .ok :: minting jti)

/-- A registered phone that has refreshed once. -/
def rotatedBefore : Pool :=
  service.runTo anyStep registered
    (refreshing 2 refreshA refreshB "44444444-4444-4444-8444-444444444444")

/-- The first refresh token again, with an answer to the deletion. -/
def replayedWith (answer : Choice) : Pool :=
  servedFrom rotatedBefore 3 (.refreshTokens firstToken refreshA "device-a")
    [.ok, .ok, .ok, answer, .ok]

/-- A logout whose deletion does not fail. -/
def loggedOut : Pool := loggedOutWith .ok

/-- A refresh after it. -/
def refusedAfter : Pool :=
  service.runTo oneByOne loggedOut
    (serve 3 (.refreshTokens firstToken refreshA "device-a") [.ok, .ok])

end Schedules

/-- After that logout the session is gone and the refresh fails. -/
theorem loggedOut_ends_session :
    loggedOut.store.sessions.lookup session = none ∧
      ∃ call ∈ refusedAfter.calls.lookup 3, refreshResult call = none := by
  have hrun : (quiescent registered = true ∧
      (registered.calls.lookup 2).isNone = true ∧
      session ∈ mentioned createdSession registered.log) ∧
      (∃ call ∈ loggedOut.calls.lookup 2, call.req = .logout firstToken ∧
        call.rest.finished = true ∧ reportsEnd call = true ∧
        namedSession (deployment [firstClaims]) call = some session ∧
        deletes call session = true) ∧
      (loggedOut.calls.lookup 3).isNone = true ∧
      ∃ call ∈ refusedAfter.calls.lookup 3,
        namedSession (deployment [firstClaims]) call = some session := by
    decide +kernel
  obtain ⟨⟨hquiescent, hnew, hcreated⟩, ⟨call, hcall, hreq, hreturned, hends,
    hnamed, hdeletes⟩, hlater, refresh, hrefresh, hnames⟩ := hrun
  have halone : service.Reach (fun current label =>
        anyStep current label ∧ noArrival current label)
      (registered.startCall service 2 (.logout firstToken)) loggedOut :=
    reach_servedFrom registered 2 (.logout firstToken) [.ok, .ok, .ok]
  have hserved : Served (deployment [firstClaims]) anyStep registered loggedOut
      2 call :=
    { quiescent := hquiescent
      arrives := Option.isNone_iff_eq_none.mp hnew
      alone := by
        rw [hreq]
        exact halone
      lookup := hcall
      returned := hreturned }
  have hend := reported_end_iff_deleted (deployment [firstClaims]) evening
    registered loggedOut 2 call session (Machine.reach_runTo _) hserved hends
    hnamed
  exact ⟨hend.1.mpr (Or.inl hdeletes), refresh, hrefresh,
    (hend.2 (Or.inl hdeletes) hcreated refusedAfter 3 refresh
      (Machine.reach_runTo _) (Option.isNone_iff_eq_none.mp hlater) hrefresh
      hnames).2⟩

/-- Without the condition the property fails: a logout and a refresh with a
replayed token report the end of the session although its deletion has failed,
and a later refresh for the session succeeds. -/
theorem ended_session_refreshed :
    (∃ call ∈ (loggedOutWith (.fault "ThrottlingException")).calls.lookup 2,
      reportsEnd call = true ∧
      namedSession (deployment [firstClaims]) call = some session) ∧
    (∃ call ∈ (service.runTo orderly
        (loggedOutWith (.fault "ThrottlingException"))
        (refreshing 3 refreshA refreshB
          "44444444-4444-4444-8444-444444444444")).calls.lookup 3,
      namedSession (deployment [firstClaims]) call = some session ∧
      (refreshResult call).isSome = true) ∧
    (∃ call ∈ (replayedWith (.fault "ThrottlingException")).calls.lookup 3,
      reportsEnd call = true ∧
      namedSession (deployment [firstClaims]) call = some session) ∧
    ∃ call ∈ (service.runTo orderly
        (replayedWith (.fault "ThrottlingException"))
        (refreshing 4 refreshB refreshC
          "55555555-5555-4555-8555-555555555555")).calls.lookup 4,
      namedSession (deployment [firstClaims]) call = some session ∧
      (refreshResult call).isSome = true := by
  decide +kernel

end MessagingPlatform.ReportedEnd
