import MessagingPlatform.App.VerifySteps
import MessagingPlatform.System.SessionLimit
import MessagingPlatform.System.Deployment

/-!
# What a login evicts

`evictConflictingSessions` and `enforceSessionLimit` go over one list with
opposite filters; the second one sorts what it keeps and cuts it at an index.
The order of the sort is a parameter here: the service compares the texts of
`created_at`, whatever they are.
-/

namespace MessagingPlatform.ExactEvictions

open Program
open OneStep
open Instants
open Errors
open Records
open Primitives
open Tables
open Operations
open Effects
open Stores
open StoreSteps
open Transactions
open Flows
open VerifySteps
open VerifyRules
open Deployment
open SessionLimit (activeRecords activeRecords_nodup
  mem_activeSessions)

variable {cfg : AuthServiceConfig} {deviceID : String}
variable {sessions limited kept : List SessionRecord}

section Selection

/-- `enforceSessionLimit` on sessions with any `created_at`: the sessions that
it evicts. -/
def excessSessionsBy {Stamp : Type} [LinearOrder Stamp]
    (cfg : AuthServiceConfig) (createdAt : SessionRecord → Stamp)
    (sessions : List SessionRecord) (deviceID : String) :
    List SessionRecord :=
  let activeSessions :=
    sessions.filter fun session => session.deviceID ≠ deviceID
  if activeSessions.length < maxSessionsPerUser then []
  else
    (cfg.sortSlice (fun left right => createdAt left < createdAt right)
      activeSessions).take (activeSessions.length - maxSessionsPerUser + 1)

def enforceSessionLimitBy {Stamp : Type} [LinearOrder Stamp]
    (cfg : AuthServiceConfig) (createdAt : SessionRecord → Stamp)
    (sessions : List SessionRecord) (deviceID : String) : Flow Unit :=
  evictSessions "delete evicted session: %w" "revoke evicted session: %w"
    (excessSessionsBy cfg createdAt sessions deviceID)

/-- Timestamp texts in their order: the empty text comes first. -/
def stamp : TimeText → WithBot ℤ
  | .empty => ⊥
  | .rfc3339 unixSecond => unixSecond

theorem before_eq_stamp (left right : TimeText) :
    left.before right = decide (stamp left < stamp right) := by
  cases left <;> cases right <;> simp [TimeText.before, stamp]

/-- The texts that the service itself writes are one case. -/
theorem enforceSessionLimit_eq (sessions : List SessionRecord)
    (deviceID : String) :
    enforceSessionLimit cfg sessions deviceID =
      enforceSessionLimitBy cfg (fun session => stamp session.createdAt)
        sessions deviceID := by
  simp only [enforceSessionLimit, enforceSessionLimitBy, excessSessions,
    excessSessionsBy, before_eq_stamp]

/-- The sessions on other devices, split into those that the limit removes and
those that survive it. -/
structure Split (older : SessionRecord → SessionRecord → Prop)
    (sessions : List SessionRecord) (deviceID : String)
    (limited kept : List SessionRecord) : Prop where
  others : (sessions.filter fun session => session.deviceID ≠ deviceID).Perm
    (limited ++ kept)
  removed : limited.length =
    if 5 ≤ (limited ++ kept).length then (limited ++ kept).length - 4 else 0
  oldest : ∀ survivor ∈ kept, ∀ gone ∈ limited, ¬ older survivor gone

theorem exists_split {Stamp : Type} [LinearOrder Stamp]
    (cfg : AuthServiceConfig) (createdAt : SessionRecord → Stamp)
    (sessions : List SessionRecord) (deviceID : String) :
    ∃ kept, Split (fun left right => createdAt left < createdAt right) sessions
      deviceID (excessSessionsBy cfg createdAt sessions deviceID) kept := by
  let others := sessions.filter fun session => session.deviceID ≠ deviceID
  have hlimit : maxSessionsPerUser = 5 := rfl
  by_cases hroom : others.length < maxSessionsPerUser
  · have hnone : excessSessionsBy cfg createdAt sessions deviceID = [] :=
      if_pos hroom
    refine ⟨others, ?_, ?_, ?_⟩
    · rw [hnone]
      exact .refl _
    · rw [hnone, List.nil_append, if_neg (by omega)]
      rfl
    · rw [hnone]
      exact fun _ _ _ hgone => absurd hgone List.not_mem_nil
  · let less := fun left right : SessionRecord =>
      decide (createdAt left < createdAt right)
    let sorted := cfg.sortSlice less others
    let count := others.length - maxSessionsPerUser + 1
    have hexcess : excessSessionsBy cfg createdAt sessions deviceID =
        sorted.take count := if_neg hroom
    have hperm : sorted.Perm others := cfg.sortSlice_perm less others
    have hsorted : sorted.Pairwise fun left right => less right left = false :=
      cfg.sortSlice_sorted less others
        (fun left right hless => by
          simp only [less, decide_eq_true_eq, decide_eq_false_iff_not,
            not_lt] at hless ⊢
          exact hless.le)
        fun left middle right hfirst hsecond => by
          simp only [less, decide_eq_false_iff_not, not_lt] at hfirst hsecond ⊢
          exact hsecond.trans hfirst
    refine ⟨sorted.drop count, ?_, ?_, ?_⟩
    · rw [hexcess, List.take_append_drop]
      exact hperm.symm
    · rw [hexcess, List.take_append_drop, List.length_take, hperm.length_eq]
      split <;> omega
    · rw [hexcess]
      intro survivor hsurvivor gone hgone
      rw [← List.take_append_drop count sorted,
        List.pairwise_append] at hsorted
      have hless := hsorted.2.2 gone hgone survivor hsurvivor
      simpa [less] using hless

end Selection

section Runs

variable {before after : Store} {trace : History}

/-- The sessions that were deleted. -/
def deletedIn (trace : History) : List String :=
  trace.filterMap fun
    | ⟨.sessionsDeleteItem sessionID, .ok ()⟩ => some sessionID
    | _ => none

/-- The identifiers that were revoked. -/
def revokedBy (trace : History) : List String :=
  trace.filterMap fun
    | ⟨.redisSet (.revokedJTI jti) _, .ok ()⟩ => some jti
    | _ => none

theorem deletedIn_evictionEntries (sessions : List SessionRecord) :
    (deletedIn (evictionEntries sessions)).Perm
      (sessions.map SessionRecord.sessionID) := by
  induction sessions with
  | nil => exact .refl _
  | cons session rest ih =>
      have hcons : deletedIn (evictionEntries (session :: rest)) =
          deletedIn (evictionEntries rest) ++ [session.sessionID] := by
        rw [evictionEntries, deletedIn, List.filterMap_append]
        rfl
      rw [hcons]
      exact (List.perm_append_singleton _ _).trans (ih.cons _)

theorem revokedBy_evictionEntries (sessions : List SessionRecord) :
    (revokedBy (evictionEntries sessions)).Perm
      (sessions.map SessionRecord.sessionID) := by
  induction sessions with
  | nil => exact .refl _
  | cons session rest ih =>
      have hcons : revokedBy (evictionEntries (session :: rest)) =
          revokedBy (evictionEntries rest) ++ [session.sessionID] := by
        rw [evictionEntries, revokedBy, List.filterMap_append]
        rfl
      rw [hcons]
      exact (List.perm_append_singleton _ _).trans (ih.cons _)

/-- The one thing that the eviction of some sessions can do. -/
theorem runs_evictSessions {deleteText revokeText : String}
    {outcome : Except GoError Unit}
    (hruns : Runs (steps cfg) (evictSessions deleteText revokeText sessions).run
      before trace outcome after) :
    outcome = .ok () ∧ after = evicted before sessions ∧
      trace = evictionEntries sessions := by
  obtain ⟨rfl, rfl⟩ := (certain_evictSessions deleteText revokeText sessions
    _ _).mp ⟨trace, hruns⟩
  refine ⟨rfl, rfl, ?_⟩
  have hsat : Sat (fun _ _ => True) (fun history outcome => outcome = .ok () →
        history = evictionEntries sessions)
      (evictSessions deleteText revokeText sessions).run [] :=
    sat_evictSessions (fun _ _ _ _ => trivial) (fun _ _ _ _ => trivial)
      (fun _ _ _ => nofun) fun _ => List.append_nil _
  have htrace := hruns.post hsat rfl
  rwa [List.append_nil] at htrace

/-- Both passes of a login, with the sessions of the second as a parameter. -/
theorem certain_passes (deleteText revokeText : String) :
    Certain (steps cfg) (evictConflictingSessions sessions deviceID >>=
        fun _ => evictSessions deleteText revokeText limited).run before
      (.ok ()) (evicted before (conflictingSessions sessions deviceID ++
        limited)) := by
  rw [evicted_append]
  exact (certain_evictSessions _ _ _).run_bind_certain
    (certain_evictSessions _ _ _)

theorem runs_evictions {deleteText revokeText : String}
    {outcome : Except GoError Unit}
    (hruns : Runs (steps cfg) (evictConflictingSessions sessions deviceID >>=
        fun _ => evictSessions deleteText revokeText limited).run before trace
      outcome after) :
    outcome = .ok () ∧
      after = evicted before (conflictingSessions sessions deviceID ++
        limited) ∧
      trace = evictionEntries (conflictingSessions sessions deviceID ++
        limited) := by
  obtain ⟨rfl, rfl⟩ := (certain_passes _ _ _ _).mp ⟨trace, hruns⟩
  refine ⟨rfl, rfl, ?_⟩
  obtain ⟨done, middle, first, second, hfirst, hsecond, rfl⟩ :=
    runs_run_bind_ok.mp hruns
  rw [(runs_evictSessions hfirst).2.2, (runs_evictSessions hsecond).2.2,
    evictionEntries_append]

end Runs

section Creation

variable {store final : Store} {userID phoneHash : String} {record : OTPRecord}
variable {user : UserRecord} {result : VerifyOTPResult}

/-- A session that a login has created. -/
structure Added (before after : Store) (userID deviceID sessionID : String)
    (item : SessionItem) : Prop where
  absent : before.sessions.lookup sessionID = none
  sessions : after.sessions = before.sessions.insert sessionID item
  clock : after.clock = before.clock
  user : item.userID = some userID
  device : item.deviceID = some deviceID
  unexpired : (format before.clock).before item.expiresAt = true

theorem before_refreshTokenLifetime (now : Time) :
    (format now).before (format (now + refreshTokenLifetime)) = true := by
  have hlifetime : refreshTokenLifetime = 2592000 * second := by decide
  rw [hlifetime]
  simp only [format, TimeText.before, decide_eq_true_eq]
  rw [Int.add_mul_ediv_right _ _ (by decide)]
  linarith

/-- A login transaction that goes through adds its session. -/
theorem added_of_login {params : LoginParams}
    (hunexpired : (format store.clock).before params.sessionExpiresAt = true)
    (hends : Ends (steps cfg) (verifyOTPAndCreateSession params).run store
      (.ok ()) final) :
    Added store final params.userID params.deviceID params.sessionID
      (loginSession params) := by
  obtain ⟨response, middle, ⟨choice, -, hperform⟩, hrest⟩ :=
    ends_request_bind.mp hends
  cases response with
  | ok done =>
      obtain ⟨-, rfl⟩ := (certain_run_pure _ _).mp hrest
      cases effect_of_perform hperform with
      | unchanged hkeeps => cases hkeeps
      | committed items hholds =>
          obtain ⟨⟨item, -, hcommitted⟩, habsent⟩ := login_committed hholds
          rw [hcommitted]
          exact ⟨habsent, rfl, rfl, rfl, rfl, hunexpired⟩
  | error cause => cases ((certain_run_throw _ _).mp hrest).1

/-- Every success of `createLoginSession` has added one session. -/
theorem added_of_createLoginSession
    (hends : Ends (steps cfg) (createLoginSession cfg phoneHash record user
      deviceID).run store (.ok result) final) :
    ∃ sessionID item, Added store final user.userID deviceID sessionID
      item := by
  unfold createLoginSession at hends
  obtain ⟨sessionID, first, hsession, hrest₁⟩ := ends_run_bind_ok.mp hends
  obtain ⟨_, heq, -, -, rfl⟩ := (returns_uuidNewString _ _).mp hsession
  cases heq
  obtain ⟨now, second, hclock, hrest₂⟩ := ends_run_bind_ok.mp hrest₁
  obtain ⟨hnow, rfl⟩ := (certain_request (fun _ => rfl) _ _).mp hclock
  cases hnow
  obtain ⟨token, third, htoken, hrest₃⟩ := ends_run_bind_ok.mp hrest₂
  obtain ⟨_, -, -, rfl⟩ :=
    (returns_generateRefreshToken.wrapError _ _).mp htoken
  obtain ⟨done, fourth, hcreate, hrest₄⟩ := ends_run_bind_ok.mp hrest₃
  obtain ⟨inner, hinner, hwrapped⟩ := ends_wrapError.mp hcreate
  obtain rfl : inner = .ok () := by
    cases inner with
    | ok created => rfl
    | error err => cases hwrapped
  have hadded := added_of_login (before_refreshTokenLifetime store.clock) hinner
  obtain ⟨minted, fifth, hmint, hlast⟩ := ends_run_bind_ok.mp hrest₄
  obtain ⟨_, -, jti, -, -, -, rfl⟩ :=
    ((returns_mintAccessToken _ _).wrapError _ _).mp hmint
  obtain ⟨-, rfl⟩ := (certain_run_pure _ _).mp hlast
  -- The values drawn before and after the transaction touch no session.
  exact ⟨_, _, hadded.absent, hadded.sessions, hadded.clock, hadded.user,
    hadded.device, hadded.unexpired⟩

theorem mem_activeRecords {session : SessionRecord} :
    session ∈ activeRecords store userID ↔
      ∃ item, store.sessions.lookup session.sessionID = some item ∧
        session = fromSessionItem session.sessionID item ∧
        item.userID = some userID ∧
        (format store.clock).before item.expiresAt = true := by
  simp only [activeRecords, List.mem_map, mem_activeSessions]
  constructor
  · rintro ⟨⟨key, item⟩, ⟨hmem, huser, hunexpired⟩, rfl⟩
    exact ⟨item, AList.mem_lookup_iff.mpr hmem, rfl, huser, hunexpired⟩
  · rintro ⟨item, hitem, hsession, huser, hunexpired⟩
    exact ⟨⟨session.sessionID, item⟩,
      ⟨AList.mem_lookup_iff.mp hitem, huser, hunexpired⟩, hsession.symm⟩

/-- The active sessions of the user after the creation. -/
theorem mem_activeRecords_added {sessionID : String} {item : SessionItem}
    {session : SessionRecord}
    (hadded : Added store final userID deviceID sessionID item) :
    session ∈ activeRecords final userID ↔
      session = fromSessionItem sessionID item ∨
        session ∈ activeRecords store userID := by
  rw [mem_activeRecords, mem_activeRecords, hadded.sessions, hadded.clock]
  by_cases hkey : session.sessionID = sessionID
  · rw [hkey, AList.lookup_insert, hadded.absent]
    constructor
    · rintro ⟨found, hfound, hsession, -⟩
      cases hfound
      exact .inl hsession
    · rintro (hsession | ⟨_, hnone, -⟩)
      · exact ⟨item, rfl, hsession, hadded.user, hadded.unexpired⟩
      · cases hnone
  · rw [AList.lookup_insert_ne hkey]
    constructor
    · exact .inr
    · rintro (rfl | hbefore)
      · exact absurd rfl hkey
      · exact hbefore

end Creation

section Exactness

variable {older : SessionRecord → SessionRecord → Prop}
variable {before after final : Store} {userID : String}

/-- Every listed session is removed for its device, removed by the limit, or
kept. -/
theorem Split.perm (hsplit : Split older sessions deviceID limited kept) :
    sessions.Perm (conflictingSessions sessions deviceID ++ limited ++
      kept) := by
  have hparts := (List.filter_append_perm
    (fun session : SessionRecord => decide (session.deviceID = deviceID))
    sessions).symm
  have hothers : (sessions.filter fun session =>
      !decide (session.deviceID = deviceID)).Perm (limited ++ kept) := by
    simpa using hsplit.others
  rw [List.append_assoc]
  exact hparts.trans (hothers.append_left _)

theorem Split.length_kept
    (hsplit : Split older sessions deviceID limited kept) :
    kept.length ≤ 4 := by
  have hremoved := hsplit.removed
  rw [List.length_append] at hremoved
  split at hremoved <;> omega

theorem Split.device_kept (hsplit : Split older sessions deviceID limited kept)
    {session : SessionRecord} (hkept : session ∈ kept) :
    session.deviceID ≠ deviceID := by
  have hother := hsplit.others.mem_iff.mpr (List.mem_append_right _ hkept)
  simpa using (List.mem_filter.mp hother).2

/-- No session is removed twice, and none of those kept is removed. -/
theorem Split.nodup (hsplit : Split older sessions deviceID limited kept)
    (hdistinct : (sessions.map SessionRecord.sessionID).Nodup) :
    ((conflictingSessions sessions deviceID ++ limited ++ kept).map
      SessionRecord.sessionID).Nodup :=
  (hsplit.perm.map _).nodup_iff.mp hdistinct

/-- What is active after both passes is what was kept. -/
theorem mem_activeRecords_evicted
    (hsplit : Split older sessions deviceID limited kept)
    (hdistinct : (sessions.map SessionRecord.sessionID).Nodup)
    (hactive : sessions.Perm (activeRecords before userID))
    {session : SessionRecord} :
    session ∈ activeRecords (evicted before
        (conflictingSessions sessions deviceID ++ limited)) userID ↔
      session ∈ kept := by
  have hclock : (evicted before (conflictingSessions sessions deviceID ++
      limited)).clock = before.clock :=
    keeps_evicted (fun _ _ _ => rfl) _
  have hnodup := hsplit.nodup hdistinct
  rw [List.map_append] at hnodup
  have hdisjoint := (List.nodup_append.mp hnodup).2.2
  have hsurvives : session ∈ activeRecords (evicted before
        (conflictingSessions sessions deviceID ++ limited)) userID ↔
      session.sessionID ∉ (conflictingSessions sessions deviceID ++
        limited).map (·.sessionID) ∧ session ∈ sessions := by
    rw [hactive.mem_iff, mem_activeRecords, mem_activeRecords, hclock]
    rw [lookup_evicted]
    split <;> simp_all
  rw [hsurvives, hsplit.perm.mem_iff, List.mem_append]
  constructor
  · rintro ⟨hgone, hremoved | hkept⟩
    · exact absurd (List.mem_map_of_mem hremoved) hgone
    · exact hkept
  · intro hkept
    exact ⟨fun hgone => hdisjoint _ hgone _ (List.mem_map_of_mem hkept) rfl,
      .inr hkept⟩

/-- The active sessions after the creation: the new one and those kept. -/
theorem perm_activeRecords {sessionID : String} {item : SessionItem}
    (hsplit : Split older sessions deviceID limited kept)
    (hdistinct : (sessions.map SessionRecord.sessionID).Nodup)
    (hactive : sessions.Perm (activeRecords before userID))
    (hadded : Added (evicted before (conflictingSessions sessions deviceID ++
      limited)) final userID deviceID sessionID item) :
    (activeRecords final userID).Perm
      (fromSessionItem sessionID item :: kept) := by
  have hkept : kept.Nodup := by
    have hnodup := List.Nodup.of_map _ (hsplit.nodup hdistinct)
    exact (List.nodup_append.mp hnodup).2.1
  have hnew : fromSessionItem sessionID item ∉ kept := by
    intro hmem
    obtain ⟨found, hfound, -⟩ := mem_activeRecords.mp
      ((mem_activeRecords_evicted hsplit hdistinct hactive).mpr hmem)
    exact Option.some_ne_none found (hfound.symm.trans hadded.absent)
  rw [List.perm_ext_iff_of_nodup (activeRecords_nodup final userID)
    (hkept.cons hnew)]
  intro session
  rw [mem_activeRecords_added hadded,
    mem_activeRecords_evicted hsplit hdistinct hactive, List.mem_cons]

/-- Both passes over a list of sessions and the creation that follows:
`enforce` is the second pass, `older` the order of its sort. -/
structure EvictsExactly (cfg : AuthServiceConfig) (enforce : Flow Unit)
    (older : SessionRecord → SessionRecord → Prop)
    (sessions : List SessionRecord) (deviceID : String) (before : Store)
    (limited kept : List SessionRecord) : Prop where
  split : Split older sessions deviceID limited kept
  returns : ∃ trace after, Runs (steps cfg)
    (evictConflictingSessions sessions deviceID >>= fun _ => enforce).run before
    trace (.ok ()) after
  exact : ∀ trace outcome after, Runs (steps cfg)
      (evictConflictingSessions sessions deviceID >>= fun _ => enforce).run
      before trace outcome after →
    let removed :=
      ((sessions.filter fun session => session.deviceID = deviceID) ++
        limited).map SessionRecord.sessionID
    outcome = .ok () ∧ removed.Nodup ∧ (deletedIn trace).Perm removed ∧
      (revokedBy trace).Perm removed ∧
      (∀ sessionID, after.sessions.lookup sessionID =
        if sessionID ∈ removed then none
        else before.sessions.lookup sessionID) ∧
      ∀ phoneHash record user result final,
        sessions.Perm (activeRecords before user.userID) →
        Ends (steps cfg) (createLoginSession cfg phoneHash record user
          deviceID).run after (.ok result) final →
        (activeRecords final user.userID).length ≤ 5 ∧
          ((activeRecords final user.userID).filter fun session =>
            session.deviceID = deviceID).length = 1

theorem evictsExactly_of_split {deleteText revokeText : String}
    (hsplit : Split older sessions deviceID limited kept)
    (hdistinct : (sessions.map SessionRecord.sessionID).Nodup) :
    EvictsExactly cfg (evictSessions deleteText revokeText limited) older
      sessions deviceID before limited kept where
  split := hsplit
  returns := by
    obtain ⟨trace, hruns⟩ := (certain_passes deleteText revokeText).ends
    exact ⟨trace, _, hruns⟩
  exact := by
    intro trace outcome after hruns
    obtain ⟨rfl, rfl, rfl⟩ := runs_evictions hruns
    have hnodup := hsplit.nodup hdistinct
    rw [List.map_append] at hnodup
    refine ⟨rfl, (List.nodup_append.mp hnodup).1,
      deletedIn_evictionEntries _, revokedBy_evictionEntries _,
      lookup_evicted _, ?_⟩
    intro phoneHash record user result final hactive hends
    obtain ⟨sessionID, item, hadded⟩ := added_of_createLoginSession hends
    have hperm := perm_activeRecords hsplit hdistinct hactive hadded
    constructor
    · rw [hperm.length_eq, List.length_cons]
      have hkept := hsplit.length_kept
      omega
    · have hnew : (fromSessionItem sessionID item).deviceID = deviceID := by
        simp [fromSessionItem, hadded.device]
      have hothers : (kept.filter fun session =>
          decide (session.deviceID = deviceID)) = [] :=
        List.filter_eq_nil_iff.mpr fun session hkept =>
          by simpa using hsplit.device_kept hkept
      rw [(hperm.filter _).length_eq, List.filter_cons, hothers]
      simp [hnew]

/-- Both passes remove every session on the device and the oldest of the others,
as many as leave room for the new one.  This does not depend on what the texts
of `created_at` are: any total order of them will do. -/
theorem evictions_exact (cfg : AuthServiceConfig)
    (sessions : List SessionRecord) (deviceID : String) (before : Store)
    (hdistinct : (sessions.map SessionRecord.sessionID).Nodup) :
    (∃ limited kept, EvictsExactly cfg
      (enforceSessionLimit cfg sessions deviceID)
      (fun left right => left.createdAt.before right.createdAt = true) sessions
      deviceID before limited kept) ∧
    ∀ (Stamp : Type) [LinearOrder Stamp] (createdAt : SessionRecord → Stamp),
      ∃ limited kept, EvictsExactly cfg
        (enforceSessionLimitBy cfg createdAt sessions deviceID)
        (fun left right => createdAt left < createdAt right) sessions deviceID
        before limited kept := by
  constructor
  · obtain ⟨kept, hsplit⟩ := exists_split cfg
      (fun session => stamp session.createdAt) sessions deviceID
    rw [enforceSessionLimit_eq]
    simp only [before_eq_stamp, decide_eq_true_eq]
    exact ⟨_, kept, evictsExactly_of_split hsplit hdistinct⟩
  · intro Stamp _ createdAt
    obtain ⟨kept, hsplit⟩ := exists_split cfg createdAt sessions deviceID
    exact ⟨_, kept, evictsExactly_of_split hsplit hdistinct⟩

/-- A session of the user that began some seconds after the evening did. -/
def seat (device : String) (seconds : ℤ) : SessionItem :=
  sessionAttributes user device "" (format (evening + seconds * second))
    (format (evening + refreshTokenLifetime)) 0

/-- Two sessions on one device and five on others, two of which began in the
same second. -/
def seats : Table SessionItem :=
  [⟨session, seat "device-a" 9⟩, ⟨sessionB, seat "device-b" 4⟩,
    ⟨sessionC, seat "device-c" 1⟩,
    ⟨"88888888-8888-4888-8888-888888888888", seat "device-d" 1⟩,
    ⟨"99999999-9999-4999-8999-999999999999", seat "device-a" 2⟩,
    ⟨"aaaaaaaa-aaaa-4aaa-8aaa-aaaaaaaaaaaa", seat "device-e" 3⟩,
    ⟨"bbbbbbbb-bbbb-4bbb-8bbb-bbbbbbbbbbbb", seat "device-f" 5⟩].toAList

/-- The code that the next login uses. -/
def pendingCode : OTPItem where
  otpMAC := "21b29b7b419b291c614aa7fadb3bcd1bcf964e0b95eaac3083c8bfb03b73f48b"
  otpCiphertext := "123456"
  createdAt := format evening
  expiresAt := format (evening + otpValidityDuration)
  attemptCount := 0
  status := .pending
  ttl := 0

def seated : Store :=
  { Store.empty (evening + 10 * second) with
    issued := seats.keys
    otpRequests := AList.singleton phoneDigest pendingCode
    sessions := seats }

def seatedUser : UserRecord := ⟨user, phone, "", format evening, format evening⟩

theorem keysIssued_seated : KeysIssued seated := by
  intro uuid _ hfresh
  exact ⟨rfl, AList.lookup_eq_none.mpr hfresh⟩

/-- A login on the first device ends both its sessions and one of the two that
began first, and five sessions remain. -/
theorem seated_evictions :
    ((activeRecords seated user).map SessionRecord.sessionID).Nodup ∧
    ∃ limited kept after result final,
      EvictsExactly (deployment []) (enforceSessionLimit (deployment [])
          (activeRecords seated user) "device-a")
        (fun left right => left.createdAt.before right.createdAt = true)
        (activeRecords seated user) "device-a" seated limited kept ∧
      limited.length = 1 ∧
      Ends (steps (deployment [])) (createLoginSession (deployment [])
        phoneDigest (fromOTPItem phoneDigest pendingCode) seatedUser
        "device-a").run after (.ok result) final ∧
      (activeRecords final user).length ≤ 5 := by
  have hdistinct : ((activeRecords seated user).map
      SessionRecord.sessionID).Nodup := by decide +kernel
  obtain ⟨limited, kept, hexact⟩ := (evictions_exact (deployment [])
    (activeRecords seated user) "device-a" seated hdistinct).1
  have hfive : (limited ++ kept).length = 5 := by
    rw [← hexact.split.others.length_eq]
    decide +kernel
  have hone : limited.length = 1 := by
    rw [hexact.split.removed, hfive]
    rfl
  obtain ⟨trace, after, hruns⟩ := hexact.returns
  obtain ⟨-, hafter, -⟩ := runs_evictions hruns
  have hrecords : after.otpRequests = seated.otpRequests := by
    rw [hafter]
    exact keeps_evicted (fun _ _ _ => rfl) _
  have hissued : after.issued = seated.issued := by
    rw [hafter]
    exact keeps_evicted (fun _ _ _ => rfl) _
  have hstored : after.otpRequests.lookup phoneDigest = some pendingCode := by
    rw [hrecords]
    decide
  have hkeys : KeysIssued after := by
    rw [hafter]
    exact keysIssued_evicted keysIssued_seated _
  have hlogin : Returns (deployment []) (createLoginSession (deployment [])
      phoneDigest (fromOTPItem phoneDigest pendingCode) seatedUser "device-a")
      after _ :=
    returns_createLoginSession hstored rfl hkeys
  have hdrawn : Drawn after.issued ["cccccccc-cccc-4ccc-8ccc-cccccccccccc",
      "dddddddd-dddd-4ddd-8ddd-dddddddddddd"] refreshA := by
    rw [hissued]
    exact ⟨by decide, by decide, by decide⟩
  have hends := (hlogin _ _).mpr ⟨_, rfl, _, _, _, hdrawn, rfl, rfl⟩
  have hcreated := (hexact.exact _ _ _ hruns).2.2.2.2.2 phoneDigest _ seatedUser
    _ _ (.refl _) hends
  exact ⟨hdistinct, limited, kept, after, _, _, hexact, hone, hends, hcreated.1⟩

end Exactness

end MessagingPlatform.ExactEvictions
