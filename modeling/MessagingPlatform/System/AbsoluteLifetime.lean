import MessagingPlatform.System.ReportedEnd

/-!
# The lifetime of a session from its creation

A refresh checks the expiry that the session carries, and writes a new one,
`RefreshTokenLifetime` after its own time.  The time since the creation bounds
a refresh only as long as no rotation has moved the expiry.
-/

namespace MessagingPlatform.AbsoluteLifetime

open Program
open Interleaving
open Instants
open Primitives
open Tables
open Operations
open Effects
open Freshness
open SessionRules
open Service
open ServiceRules
open MessagingPlatform.Runs
open Commits
open SessionOrigins
open ReportedEnd
open Deployment

section Definitions

/-- The sessions ever created, each with its creation time, newest first. -/
def creationTimes (pool : Pool) : List (String × TimeText) :=
  origins (fun item => item.createdAt) pool

/-- The session expires within `RefreshTokenLifetime` of its creation. -/
def Unextended (item : SessionItem) : Prop :=
  ∃ createdAt ∈ item.createdAt, ∃ created ∈ parse createdAt,
    ∃ expiry ∈ parse item.expiresAt, expiry ≤ created + refreshTokenLifetime

instance (item : SessionItem) : Decidable (Unextended item) :=
  inferInstanceAs (Decidable (∃ _ ∈ item.createdAt, _))

/-- A session that is read has not been extended. -/
def readsUnextended (store : Store) (op : Op) : Prop :=
  ∀ sessionID ∈ op.sessionRead,
    ∀ item ∈ store.sessions.lookup sessionID, Unextended item

instance (store : Store) (op : Op) : Decidable (readsUnextended store op) :=
  inferInstanceAs (Decidable (∀ _ ∈ op.sessionRead, ∀ _ ∈ _, _))

/-- The time at which a refresh has checked the expiry of its session: what it
read of the clock after the session. -/
def checkedAt (call : Call) : Option Time :=
  match call.history.reverse with
  | _ :: _ :: ⟨.clockNow, now⟩ :: _ => some now
  | _ => none

end Definitions

variable {cfg : AuthServiceConfig} {admissible : Pool → Label → Prop}
variable {clock : Time} {pool : Pool}

/-- A refresh that succeeds has checked the session that its token names. -/
theorem checked_of_refresh {id : ℕ} {call : Call}
    {result : Records.RefreshResult}
    (hreach : (machine cfg).Reach admissible (start clock) pool)
    (hcall : pool.calls.lookup id = some call)
    (hresult : refreshResult call = some result) :
    ∃ look : Lookup,
      namedSession cfg call = some look.claims.sessionID ∧
      checkedAt call = some look.now ∧
      (∃ expiry, parse look.item.expiresAt = some expiry ∧
        look.now ≤ expiry) ∧
      (⟨.sessionsGetItem look.claims.sessionID, .ok (some look.item)⟩ :
        Entry) ∈ call.history := by
  obtain ⟨look, now, added, hnamed, hunexpired, hhistory⟩ :=
    rotation_of_refreshed hreach hcall hresult
  refine ⟨look, hnamed, ?_, hunexpired, ?_⟩
  · simp [checkedAt, hhistory, Lookup.rotatingEntries, Lookup.entries]
  · simp [hhistory, Lookup.rotatingEntries, Lookup.entries]

/-- A session that was read was created in the run, and had not been extended
when it was read. -/
theorem unextended_of_read {id : ℕ} {call : Call} {sessionID : String}
    {item : SessionItem}
    (hadmissible : ∀ current label, admissible current label →
      whenPerforming readsUnextended current label)
    (hreach : (machine cfg).Reach admissible (start clock) pool)
    (hcall : pool.calls.lookup id = some call)
    (hread : (⟨.sessionsGetItem sessionID, .ok (some item)⟩ : Entry) ∈
      call.history) :
    ∃ createdAt created, (sessionID, createdAt) ∈ creationTimes pool ∧
      parse createdAt = some created ∧
      ∀ expiry, parse item.expiresAt = some expiry →
        expiry ≤ created + refreshTokenLifetime := by
  refine forall_entries (F := fun pool entry => ∀ sessionID item,
    entry = ⟨.sessionsGetItem sessionID, .ok (some item)⟩ →
    ∃ createdAt created, (sessionID, createdAt) ∈ creationTimes pool ∧
      parse createdAt = some created ∧
      ∀ expiry, parse item.expiresAt = some expiry →
        expiry ≤ created + refreshTokenLifetime) ?_ ?_ hreach hcall _ hread
    sessionID item rfl
  · intro pool later entry hentry hlater sessionID item heq
    obtain ⟨createdAt, created, horigin, hfacts⟩ := hentry sessionID item heq
    exact ⟨createdAt, created, origins_subset hlater horigin, hfacts⟩
  · intro pool id choice call op next response after hpool hexec hallowed
      hlater sessionID item heq
    cases heq
    have hitem : some item = pool.store.sessions.lookup sessionID :=
      hexec.answers
    have hunextended : Unextended item :=
      hadmissible _ _ hallowed _ hexec.nextOp _ rfl item hitem.symm
    obtain ⟨createdAt, hcreatedAt, created, hcreated, expiry, hexpiry,
      hbound⟩ := hunextended
    refine ⟨createdAt, created, origins_subset hlater
      (origin_of_item (fun _ _ => rfl) hpool hitem.symm hcreatedAt), hcreated,
      ?_⟩
    intro other hother
    rw [Option.mem_def.mp hexpiry, Option.some.injEq] at hother
    rw [← hother]
    exact hbound

/-- In every run in which each session that a refresh reads still has the
expiry of its creation, no refresh succeeds later than `RefreshTokenLifetime`
after the creation of its session. -/
theorem unextended_session_ends (cfg : AuthServiceConfig) (clock : Time)
    (pool : Pool)
    (hreach : (machine cfg).Reach (whenPerforming readsUnextended)
      (start clock) pool)
    (id : ℕ) (call : Call) (hcall : pool.calls.lookup id = some call)
    (hsuccess : (refreshResult call).isSome = true) :
    ∃ sessionID checked createdAt created,
      namedSession cfg call = some sessionID ∧
      checkedAt call = some checked ∧
      (∀ other, (sessionID, other) ∈ creationTimes pool ↔
        other = createdAt) ∧
      parse createdAt = some created ∧
      checked ≤ created + refreshTokenLifetime := by
  obtain ⟨result, hresult⟩ := Option.isSome_iff_exists.mp hsuccess
  obtain ⟨look, hnamed, hchecked, ⟨expiry, hexpiry, hunexpired⟩, hread⟩ :=
    checked_of_refresh hreach hcall hresult
  obtain ⟨createdAt, created, horigin, hcreated, hbound⟩ :=
    unextended_of_read (fun _ _ hallowed => hallowed) hreach hcall hread
  refine ⟨look.claims.sessionID, look.now, createdAt, created, hnamed,
    hchecked, ?_, hcreated, hunexpired.trans (hbound expiry hexpiry)⟩
  intro other
  constructor
  · intro hother
    exact origin_unique hreach hother horigin
  · rintro rfl
    exact horigin

section Schedules

def day : Duration := 24 * hour

/-- A refresh at its own time. -/
def refreshingAt (now : Time) (id : ℕ)
    (refreshToken newRefresh jti : String) : List Label :=
  .env (.tick now) :: refreshing id refreshToken newRefresh jti

/-- A registered phone that refreshes once, after 29 days. -/
def refreshedOnce : Pool :=
  service.runTo (whenPerforming readsUnextended) (start evening)
    (registration ++ refreshingAt (evening + 29 * day) 2 refreshA refreshB
      "44444444-4444-4444-8444-444444444444")

/-- A registered phone that refreshes after 29 days and after 58 days. -/
def refreshedTwice : Pool :=
  service.runTo orderly (start evening)
    (registration ++ refreshingAt (evening + 29 * day) 2 refreshA refreshB
        "44444444-4444-4444-8444-444444444444" ++
      refreshingAt (evening + 58 * day) 3 refreshB refreshC
        "55555555-5555-4555-8555-555555555555")

end Schedules

/-- Its refresh lies within the lifetime. -/
theorem refreshedOnce_within_lifetime :
    ∃ call ∈ refreshedOnce.calls.lookup 2,
      ∃ sessionID checked createdAt created,
        namedSession (deployment [firstClaims]) call = some sessionID ∧
        checkedAt call = some checked ∧
        (∀ other, (sessionID, other) ∈ creationTimes refreshedOnce ↔
          other = createdAt) ∧
        parse createdAt = some created ∧
        checked ≤ created + refreshTokenLifetime := by
  have hrun : ∃ call ∈ refreshedOnce.calls.lookup 2,
      (refreshResult call).isSome = true := by decide +kernel
  obtain ⟨call, hcall, hsuccess⟩ := hrun
  exact ⟨call, hcall, unextended_session_ends (deployment [firstClaims])
    evening refreshedOnce (Machine.reach_runTo _) 2 call hcall hsuccess⟩

/-- Without the condition the property fails: the second refresh succeeds 58
days after the creation. -/
theorem session_refreshed_after_lifetime :
    ∃ call ∈ refreshedTwice.calls.lookup 3,
      (refreshResult call).isSome = true ∧
      namedSession (deployment [firstClaims]) call = some session ∧
      creationTimes refreshedTwice = [(session, format evening)] ∧
      ∃ checked ∈ checkedAt call, ∃ created ∈ parse (format evening),
        created + refreshTokenLifetime < checked := by
  decide +kernel

end MessagingPlatform.AbsoluteLifetime
