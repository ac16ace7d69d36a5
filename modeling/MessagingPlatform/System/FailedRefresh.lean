import MessagingPlatform.System.RefreshCalls
import MessagingPlatform.System.Deployment

/-!
# What a failed refresh leaves

A refresh that runs alone on any store, with any failures, and returns an error
other than the report of a reused token.  The rotation is written before the
access token is minted, so a failed mint leaves a session that has been rotated
to a refresh token nobody knows.  After any other failure the sessions are what
they were, and the same refresh token can be presented again.
-/

namespace MessagingPlatform.FailedRefresh

open Program
open Interleaving
open Instants
open Errors
open Records
open Primitives
open Tables
open Operations
open Stores
open StoreRules
open SessionRules
open Service
open ServiceRules
open MessagingPlatform.Sequential
open MessagingPlatform.Runs
open WholeCalls
open ReportedEnd
open AbsoluteLifetime
open RefreshCalls
open Deployment

/-- A request of a mint that failed. -/
def mintFailure : Entry → Bool
  | ⟨.signingKey, .error _⟩ => true
  | ⟨.signedString _ _ _, .error _⟩ => true
  | _ => false

/-- The signing key or the signature could not be had. -/
def mintFailed (history : History) : Bool := history.any mintFailure

variable {cfg : AuthServiceConfig} {store : Store} {ended : Pool} {id : ℕ}
variable {call : Call} {accessToken refreshToken deviceID : String}
variable {err : GoError}

/-- Whatever fails, a whole call runs alone. -/
theorem solo_of_served
    (hserved : Served cfg anyStep (.initial store) ended id call) :
    Solo (machine cfg) (fun _ => True) store call.history ended.store :=
  hserved.solo fun _ _ _ _ => trivial

theorem reach_of_served {admissible : Pool → Label → Prop} {first : Pool}
    (hserved : Served cfg admissible first ended id call) :
    (machine cfg).Reach anyStep first ended := by
  have harrived : (machine cfg).Reach anyStep first first := .refl
  exact hserved.reach harrived

theorem mintFailed_of_mintFailed {added : History} (older : History)
    (hfailed : MintFailed added) : mintFailed (added ++ older) = true := by
  rcases hfailed with ⟨cause, rest, rfl⟩ |
    ⟨key, keyID, claims, cause, rest, rfl⟩
  · rfl
  · rfl

/-- A rotation changes the record of the session. -/
theorem sessions_ne_of_rotation {look : Lookup} {newRefresh : String}
    {now : Time} {added : History}
    (hadded : ∀ entry ∈ added, isMint entry.1 = true)
    (hsolo : Solo (machine cfg) (fun _ => True) store
      (added ++ ⟨.sessionsUpdateItem look.claims.sessionID
        (look.rotation cfg newRefresh now), .ok ()⟩ ::
          look.rotatingEntries newRefresh now) ended.store) :
    ended.store.sessions ≠ store.sessions := by
  obtain ⟨hread, hsessions, -⟩ := tables_of_rotation hadded hsolo
  intro hsame
  have hrotated : store.sessions.lookup look.claims.sessionID =
      some (rotatedItem cfg look.item newRefresh now) := by
    rw [← hsame, hsessions, AList.lookup_insert]
  rw [hread, Option.some.injEq] at hrotated
  have hgeneration := congrArg SessionItem.tokenGeneration hrotated
  simp [rotatedItem] at hgeneration

/-- The sessions after a refresh that has failed. -/
theorem sessions_of_failed
    (hfailed : RefreshFailed cfg accessToken refreshToken deviceID
      call.history err)
    (herr : err ≠ .sentinel .errRefreshTokenReuse)
    (hsolo : Solo (machine cfg) (fun _ => True) store call.history
      ended.store) :
    ended.store.sessions = store.sessions ↔
      mintFailed call.history = false := by
  generalize call.history = history at hfailed hsolo
  cases hfailed with
  | reused look deleted revoked hreused => exact (herr rfl).elim
  | unminted look newRefresh now added err hcurrent hadded hfailed =>
      rw [mintFailed_of_mintFailed _ hfailed]
      simp [sessions_ne_of_rotation hadded hsolo]
  | _ =>
      refine iff_of_true (sameTables_of_solo hsolo ?_).sessions ?_
      · simp [Lookup.rotatingEntries, Lookup.entries, keepsTables]
      · simp [mintFailed, Lookup.rotatingEntries, Lookup.entries, mintFailure]

/-- A refresh that runs alone on a session which still holds the presented
token, without failures, succeeds. -/
theorem retry_succeeds {first ended : Pool} {id : ℕ} {call : Call}
    {refreshToken sessionID : String} {item : SessionItem} {origin : Store}
    (hon : OnSession cfg first ended id call refreshToken sessionID item)
    (hreach : (machine cfg).Reach anyStep (.initial origin) ended)
    (hcurrent : validateRefreshHash cfg refreshToken item.refreshTokenHash =
      true) :
    ∃ result, call.rest = .pure (.refreshTokens (.ok result)) := by
  cases hon.outcome hreach with
  | rotated result now _ hreturned _ _ => exact ⟨result, hreturned⟩
  | reused hsuperseded | unknown hsuperseded => simp [hcurrent] at hsuperseded

/-- A refresh that runs alone and returns an error other than the report of a
reused token leaves the sessions as they were exactly if its mint did not
fail; a retry with the same refresh token then succeeds on every session that
held it before. -/
theorem failed_refresh_keeps_sessions_iff
    (hserved : Served cfg anyStep (.initial store) ended id call)
    (hreq : call.req = .refreshTokens accessToken refreshToken deviceID)
    (hrest : call.rest = .pure (.refreshTokens (.error err)))
    (herr : err ≠ .sentinel .errRefreshTokenReuse) :
    (ended.store.sessions = store.sessions ↔
      mintFailed call.history = false) ∧
    (mintFailed call.history = false →
      ∀ (sessionID : String) (item : SessionItem) (later : Pool)
        (retryID : ℕ) (retry : Call),
        store.sessions.lookup sessionID = some item →
        validateRefreshHash cfg refreshToken item.refreshTokenHash = true →
        Served cfg withoutFaults (.initial ended.store) later retryID retry →
        (∃ presented, retry.req =
          .refreshTokens presented refreshToken (item.deviceID.getD "")) →
        namedSession cfg retry = some sessionID →
        (∃ expiry, parse item.expiresAt = some expiry ∧
          ∀ checked, checkedAt retry = some checked → checked ≤ expiry) →
          ∃ result, retry.rest = .pure (.refreshTokens (.ok result))) := by
  have hpost := (reach_of_served hserved).post_of_returned (sat_program cfg)
    hserved.lookup hrest
  rw [hreq] at hpost
  have hkept := sessions_of_failed hpost herr (solo_of_served hserved)
  refine ⟨hkept, ?_⟩
  intro hminted sessionID item later retryID retry hfound hcurrent hretried
    hrequest hnamed hunexpired
  have hagain : ended.store.sessions.lookup sessionID = some item := by
    rw [hkept.mpr hminted, hfound]
  exact retry_succeeds ⟨hretried, hagain, hrequest, hnamed, hunexpired⟩
    (reach_of_served hretried) hcurrent

section Examples

/-- The error of a refresh. -/
def refreshError (call : Call) : Option GoError :=
  match call.rest with
  | .pure (.refreshTokens (.error err)) => some err
  | _ => none

theorem rest_of_refreshError {call : Call} {err : GoError}
    (herror : refreshError call = some err) :
    call.rest = .pure (.refreshTokens (.error err)) := by
  unfold refreshError at herror
  split at herror
  · next hrest =>
      cases herror
      exact hrest
  · cases herror

/-- Whether a refresh has returned an error other than the report of a reused
token. -/
def failedOtherwise (call : Call) : Bool :=
  (refreshError call).any fun err => !errorsIs .errRefreshTokenReuse err

theorem error_of_failedOtherwise {call : Call}
    (hfailed : failedOtherwise call = true) :
    ∃ err, call.rest = .pure (.refreshTokens (.error err)) ∧
      err ≠ .sentinel .errRefreshTokenReuse := by
  rw [failedOtherwise, Option.any_eq_true] at hfailed
  obtain ⟨err, herror, hother⟩ := hfailed
  refine ⟨err, rest_of_refreshError herror, ?_⟩
  rintro rfl
  simp [errorsIs] at hother

/-- The tables after a registration. -/
def tables : Store := registered.store

/-- A refresh on them that meets these answers. -/
def refreshedWith (answers : List Choice) : Pool :=
  servedFrom (.initial tables) 2 (.refreshTokens firstToken refreshA "device-a")
    (rotating refreshB ++ answers)

theorem reach_refreshedWith (answers : List Choice) :
    service.Reach (fun current label =>
        anyStep current label ∧ noArrival current label)
      ((Interleaving.Pool.initial tables).startCall service 2
        (.refreshTokens firstToken refreshA "device-a"))
      (refreshedWith answers) :=
  reach_servedFrom _ _ _ _

/-- The same refresh again, without failures. -/
def retriedAfter (pool : Pool) (choices : List Choice) : Pool :=
  service.runTo (fun current label =>
      withoutFaults current label ∧ noArrival current label)
    ((Interleaving.Pool.initial pool.store).startCall service 3
      (.refreshTokens firstToken refreshA "device-a"))
    (resume 3 choices)

theorem reach_retriedAfter (pool : Pool) (choices : List Choice) :
    service.Reach (fun current label =>
        withoutFaults current label ∧ noArrival current label)
      ((Interleaving.Pool.initial pool.store).startCall service 3
        (.refreshTokens firstToken refreshA "device-a"))
      (retriedAfter pool choices) :=
  Machine.reach_runTo _

/-- A refresh that cannot get the signing key has rotated the session, and the
retry is taken for a reuse of the token: the session is deleted. -/
theorem unminted_refresh_rotates :
    (∃ call ∈ (refreshedWith [.ok, .fault "key store"]).calls.lookup 2,
      failedOtherwise call = true) ∧
    (refreshedWith [.ok, .fault "key store"]).store.sessions.lookup session ≠
      tables.sessions.lookup session ∧
    (∃ call ∈ (retriedAfter (refreshedWith [.ok, .fault "key store"])
        (List.replicate 5 .ok)).calls.lookup 3,
      (refreshError call).any (errorsIs .errRefreshTokenReuse) = true) ∧
    (retriedAfter (refreshedWith [.ok, .fault "key store"])
      (List.replicate 5 .ok)).store.sessions.lookup session = none := by
  decide +kernel

/-- A refresh whose write fails, and a retry. -/
def unwritten : Pool := refreshedWith [.fault "throttled"]

def retried : Pool :=
  retriedAfter unwritten (rotating refreshC ++ .ok ::
    minting "44444444-4444-4444-8444-444444444444")

/-- After a failed write the sessions are as before and the retry succeeds. -/
theorem unwritten_refresh_retried :
    unwritten.store.sessions = tables.sessions ∧
      ∃ call ∈ retried.calls.lookup 3, ∃ result,
        call.rest = .pure (.refreshTokens (.ok result)) := by
  have hrun : (∃ call ∈ unwritten.calls.lookup 2,
        call.req = .refreshTokens firstToken refreshA "device-a" ∧
        call.rest.finished = true ∧ failedOtherwise call = true ∧
        mintFailed call.history = false) ∧
      (∃ item ∈ tables.sessions.lookup session,
        validateRefreshHash (deployment [firstClaims]) refreshA
          item.refreshTokenHash = true ∧ item.deviceID.getD "" = "device-a" ∧
        ∃ expiry ∈ parse item.expiresAt, evening ≤ expiry) ∧
      ∃ call ∈ retried.calls.lookup 3,
        call.req = .refreshTokens firstToken refreshA "device-a" ∧
        call.rest.finished = true ∧ checkedAt call = some evening ∧
        namedSession (deployment [firstClaims]) call = some session := by
    decide +kernel
  obtain ⟨⟨call, hcall, hreq, hreturned, hfailed, hminted⟩,
    ⟨item, hitem, hcurrent, hdevice, expiry, hexpiry, hunexpired⟩,
    retry, hretry, hretryReq, hretryReturned, hchecked, hnamed⟩ := hrun
  obtain ⟨err, hrest, herr⟩ := error_of_failedOtherwise hfailed
  have hserved : Served (deployment [firstClaims]) anyStep (.initial tables)
      unwritten 2 call :=
    { quiescent := rfl
      arrives := rfl
      alone := by
        rw [hreq]
        exact reach_refreshedWith [.fault "throttled"]
      lookup := hcall
      returned := hreturned }
  have hagain : Served (deployment [firstClaims]) withoutFaults
      (.initial unwritten.store) retried 3 retry :=
    { quiescent := rfl
      arrives := rfl
      alone := by
        rw [hretryReq]
        exact reach_retriedAfter unwritten _
      lookup := hretry
      returned := hretryReturned }
  obtain ⟨hkept, hsucceeds⟩ :=
    failed_refresh_keeps_sessions_iff hserved hreq hrest herr
  refine ⟨hkept.mpr hminted, retry, hretry, ?_⟩
  refine hsucceeds hminted session item retried 3 retry hitem hcurrent hagain
    ⟨firstToken, by rw [hretryReq, hdevice]⟩ hnamed ⟨expiry, hexpiry, ?_⟩
  intro checked hat
  rw [hchecked, Option.some.injEq] at hat
  rw [← hat]
  exact hunexpired

end Examples

end MessagingPlatform.FailedRefresh
