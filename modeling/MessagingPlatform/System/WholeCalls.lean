import MessagingPlatform.System.Commits

/-!
# Whole calls of the service

A call that arrives when every call has returned, and runs alone until it has
returned itself.  What it did is read off its history, entry by entry.  When
all calls are served this way, what a call has read of a session still stands,
and a session that is gone stays away.
-/

namespace MessagingPlatform.WholeCalls

open Program
open Interleaving
open Instants
open Records
open Primitives
open Tables
open Operations
open Effects
open Freshness
open MessagingPlatform.Sequential
open SessionRules
open VerifyRules
open Service
open ServiceRules
open MessagingPlatform.Runs
open Commits

/-- Call `id` arrives in `first`, runs alone and has returned in `ended`. -/
structure Served (cfg : AuthServiceConfig) (admissible : Pool → Label → Prop)
    (first ended : Pool) (id : ℕ) (call : Call) : Prop where
  quiescent : quiescent first = true
  arrives : first.calls.lookup id = none
  alone : (machine cfg).Reach
    (fun current label => admissible current label ∧ noArrival current label)
    (first.startCall (machine cfg) id call.req) ended
  lookup : ended.calls.lookup id = some call
  returned : call.rest.finished = true

variable {cfg : AuthServiceConfig} {admissible : Pool → Label → Prop}
variable {clock : Time}

section Tables

/-- A performed request that left every table and key as it was. -/
def keepsTables : Entry → Bool
  | ⟨.redisEval _ _, .ok _⟩ => false
  | ⟨.redisSet _ _, .ok _⟩ => false
  | ⟨.otpPutItem _ _ _, .ok _⟩ => false
  | ⟨.otpUpdateItem _, .ok _⟩ => false
  | ⟨.sessionsUpdateItem _ _, .ok _⟩ => false
  | ⟨.sessionsDeleteItem _, .ok _⟩ => false
  | ⟨.transactWriteItems _, .ok _⟩ => false
  | _ => true

/-- The same tables and keys. -/
structure SameTables (before after : Store) : Prop where
  redis : after.redis = before.redis
  otpRequests : after.otpRequests = before.otpRequests
  users : after.users = before.users
  sessions : after.sessions = before.sessions

variable {before after reached : Store} {entry : Entry}

theorem SameTables.refl (store : Store) : SameTables store store :=
  ⟨rfl, rfl, rfl, rfl⟩

theorem SameTables.trans (hfirst : SameTables before after)
    (hsecond : SameTables after reached) : SameTables before reached where
  redis := hsecond.redis.trans hfirst.redis
  otpRequests := hsecond.otpRequests.trans hfirst.otpRequests
  users := hsecond.users.trans hfirst.users
  sessions := hsecond.sessions.trans hfirst.sessions

theorem sameTables_of_framed (hframed : Framed before after) :
    SameTables before after :=
  ⟨hframed.redis, hframed.otpRequests, hframed.users, hframed.sessions⟩

theorem sameTables_of_effect (heffect : Effect before entry after)
    (hkeeps : keepsTables entry = true) : SameTables before after := by
  cases heffect with
  | unchanged _ => exact .refl before
  | uuid | token => exact ⟨rfl, rfl, rfl, rfl⟩
  | _ => cases hkeeps

end Tables

section Histories

variable {permits : Choice → Prop} {first reached : Store}
variable {history older : History}

/-- The tables after the environment. -/
theorem sameTables_of_idle
    (hsolo : Solo (machine cfg) permits first [] reached) :
    SameTables first reached := by
  generalize hhistory : ([] : History) = history at hsolo
  induction hsolo with
  | arrived => exact .refl first
  | performed => cases hhistory
  | changed _ hadvance ih =>
      exact (ih hhistory).trans
        (sameTables_of_framed (framed_of_advance hadvance))

/-- The last request of a call that runs alone. -/
theorem last_effect {entry : Entry}
    (hsolo : Solo (machine cfg) permits first (entry :: older) reached) :
    ∃ before choice after, Solo (machine cfg) permits first older before ∧
      permits choice ∧
      perform cfg entry.1 choice before = some (entry.2, after) ∧
      Effect before entry after ∧ SameTables after reached := by
  obtain ⟨before, choice, after, hbefore, hpermits, hperform, hrest⟩ :=
    hsolo.last
  exact ⟨before, choice, after, hbefore, hpermits, hperform,
    effect_of_perform hperform, sameTables_of_idle hrest⟩

/-- Requests that keep the tables, one after another. -/
theorem sameTables_of_solo
    (hsolo : Solo (machine cfg) permits first history reached)
    (hkeeps : ∀ entry ∈ history, keepsTables entry = true) :
    SameTables first reached := by
  induction hsolo with
  | arrived => exact .refl first
  | performed _ _ hperform ih =>
      rw [List.forall_mem_cons] at hkeeps
      exact (ih hkeeps.2).trans
        (sameTables_of_effect (effect_of_perform hperform) hkeeps.1)
  | changed _ hadvance ih =>
      exact (ih hkeeps).trans
        (sameTables_of_framed (framed_of_advance hadvance))

end Histories

section Served

variable {first ended : Pool} {id : ℕ} {call : Call}

theorem Served.solo {permits : Choice → Prop}
    (hserved : Served cfg admissible first ended id call)
    (hpermits : ∀ current other choice,
      admissible current (.exec other choice) → permits choice) :
    Solo (machine cfg) permits first.store call.history ended.store := by
  obtain ⟨⟨found, hfound, -, hsolo⟩, -⟩ := solo_of_reach permits
    hserved.quiescent (fun _ _ hallowed => hallowed.2)
    (fun current other choice hallowed =>
      hpermits current other choice hallowed.1) hserved.alone
  rw [hserved.lookup, Option.some.injEq] at hfound
  rw [hfound]
  exact hsolo

theorem Served.quiescent_ended
    (hserved : Served cfg admissible first ended id call) :
    Sequential.quiescent ended = true :=
  quiescent_of_returned hserved.quiescent (fun _ _ hallowed => hallowed.2)
    hserved.alone hserved.lookup hserved.returned

/-- A whole call is part of a run. -/
theorem Served.reach {earlier : Pool → Label → Prop} {origin : Pool}
    (hserved : Served cfg admissible first ended id call)
    (hbase : (machine cfg).Reach earlier origin first) :
    (machine cfg).Reach anyStep origin ended := by
  have harrival : (machine cfg).Reach anyStep first
      (first.startCall (machine cfg) id call.req) := by
    have hstep : (machine cfg).step first (.start id call.req) =
        some (first.startCall (machine cfg) id call.req) := by
      simp [Machine.step, hserved.arrives]
    exact Machine.Reach.refl.step trivial hstep
  exact (reach_anyStep hbase harrival).trans
    (hserved.alone.mono fun _ _ _ => trivial)

end Served

section Sessions

variable {earlier : Pool → Label → Prop} {first pool : Pool}
variable {sessionID : String}

/-- A request that does not write a session leaves it as it is. -/
theorem lookup_of_unwritten {entry : Entry} {before after : Option SessionItem}
    (hchange : SessionChange sessionID before entry after)
    (hunwritten : writesSession sessionID entry = false) : after = before := by
  cases hchange with
  | kept => rfl
  | rotated | deleted => simp [writesSession] at hunwritten
  | created items item habsent hput =>
      simp [writesSession, createdSessions, hput] at hunwritten

/-- What the call under way has read of a session, and not written since,
stands. -/
theorem read_stands
    (hbase : (machine cfg).Reach earlier (start clock) first)
    (hquiescent : quiescent first = true)
    (honeByOne : ∀ current label,
      admissible current label → oneByOne current label)
    (hreach : (machine cfg).Reach admissible first pool) {id : ℕ}
    {call : Call} (hcall : pool.calls.lookup id = some call)
    (hunfinished : call.rest.finished = false) {newer older : History}
    {found : Option SessionItem}
    (hhistory : call.history =
      newer ++ ⟨.sessionsGetItem sessionID, .ok found⟩ :: older)
    (hunwritten : ∀ entry ∈ newer, writesSession sessionID entry = false) :
    pool.store.sessions.lookup sessionID = found := by
  refine underway (J := fun _ history store =>
    ∀ newer older found,
      history = newer ++ ⟨.sessionsGetItem sessionID, .ok found⟩ :: older →
      (∀ entry ∈ newer, writesSession sessionID entry = false) →
        store.sessions.lookup sessionID = found) hbase hquiescent honeByOne
    ?_ ?_ ?_ hreach hcall hunfinished newer older found hhistory hunwritten
  · intro pool req _ newer older found hhistory
    simp at hhistory
  · intro pool id choice call op response after _ hexec _ ih newer older found
      hhistory hunwritten
    have hchange := sessionChange_of_effect sessionID hexec.guarded hexec.effect
    cases newer with
    | nil =>
        obtain ⟨hentry, -⟩ := List.cons.inj hhistory
        cases hentry
        have hfound : found = pool.store.sessions.lookup sessionID :=
          hexec.answers
        rw [lookup_of_unwritten hchange rfl, hfound]
    | cons entry newer =>
        obtain ⟨rfl, hrest⟩ := List.cons.inj hhistory
        rw [List.forall_mem_cons] at hunwritten
        rw [lookup_of_unwritten hchange hunwritten.1]
        exact ih newer older found hrest hunwritten.2
  · intro before after req history hframed ih newer older found hhistory
      hunwritten
    rw [hframed.sessions]
    exact ih newer older found hhistory hunwritten

/-- A rotation writes over the session that its call has read. -/
theorem rotation_of_exec
    (hbase : (machine cfg).Reach earlier (start clock) first)
    (hquiescent : quiescent first = true)
    (honeByOne : ∀ current label,
      admissible current label → oneByOne current label)
    (hreach : (machine cfg).Reach admissible first pool) {id : ℕ}
    {call : Call} {update : SessionUpdate}
    {response : Op.Res (.sessionsUpdateItem sessionID update)} {after : Store}
    (hexec : Exec cfg pool id call (.sessionsUpdateItem sessionID update)
      response after) :
    ∃ (accessToken refreshToken deviceID : String) (look : Lookup)
      (newRefresh : String) (now : Time),
      call.req = .refreshTokens accessToken refreshToken deviceID ∧
      look.Current cfg accessToken refreshToken deviceID ∧
      sessionID = look.claims.sessionID ∧
      update = look.rotation cfg newRefresh now ∧
      call.history = look.rotatingEntries newRefresh now ∧
      pool.store.sessions.lookup sessionID = some look.item := by
  obtain ⟨accessToken, refreshToken, deviceID, look, newRefresh, now, hreq,
    hcurrent, rfl, hupdate, hhistory⟩ := rotation_of_guard hexec.guarded
  refine ⟨accessToken, refreshToken, deviceID, look, newRefresh, now, hreq,
    hcurrent, rfl, hupdate, hhistory, ?_⟩
  have hsplit : call.history =
      [⟨.clockNow, now⟩, ⟨.randToken, .ok newRefresh⟩,
        ⟨.clockNow, look.now⟩] ++
        ⟨.sessionsGetItem look.claims.sessionID, .ok (some look.item)⟩ ::
          [⟨.clockNow, look.validatedAt⟩] := hhistory
  exact read_stands hbase hquiescent honeByOne hreach hexec.lookup
    (Pool.unfinished_of_nextOp hexec.lookup hexec.nextOp) hsplit
    (by simp [writesSession])

/-- A write that leaves the session in the table. -/
def leavesSession (sessionID : String) : Entry → Bool
  | ⟨.sessionsUpdateItem written _, .ok ()⟩ => written == sessionID
  | ⟨.transactWriteItems items, .ok ()⟩ =>
      (createdSessions items).contains sessionID
  | _ => false

theorem writesSession_of_leaves {entry : Entry}
    (hleaves : leavesSession sessionID entry = true) :
    writesSession sessionID entry = true := by
  unfold leavesSession at hleaves
  split at hleaves
  · exact hleaves
  · exact hleaves
  · cases hleaves

/-- A session that the call under way was the last to write is in the table. -/
theorem written_stands
    (hbase : (machine cfg).Reach earlier (start clock) first)
    (hquiescent : quiescent first = true)
    (honeByOne : ∀ current label,
      admissible current label → oneByOne current label)
    (hreach : (machine cfg).Reach admissible first pool) {id : ℕ}
    {call : Call} (hcall : pool.calls.lookup id = some call)
    (hunfinished : call.rest.finished = false) {newer older : History}
    {entry : Entry} (hhistory : call.history = newer ++ entry :: older)
    (hleaves : leavesSession sessionID entry = true)
    (hunwritten : ∀ entry ∈ newer, writesSession sessionID entry = false) :
    pool.store.sessions.lookup sessionID ≠ none := by
  refine underway (J := fun _ history store =>
    ∀ newer older entry, history = newer ++ entry :: older →
      leavesSession sessionID entry = true →
      (∀ entry ∈ newer, writesSession sessionID entry = false) →
        store.sessions.lookup sessionID ≠ none) hbase hquiescent honeByOne
    ?_ ?_ ?_ hreach hcall hunfinished newer older entry hhistory hleaves
    hunwritten
  · intro pool req _ newer older entry hhistory
    simp at hhistory
  · intro pool id choice call op response after _ hexec _ ih newer older entry
      hhistory hleaves hunwritten
    have hchange := sessionChange_of_effect sessionID hexec.guarded hexec.effect
    cases newer with
    | nil =>
        obtain ⟨rfl, -⟩ := List.cons.inj hhistory
        generalize after.sessions.lookup sessionID = item at hchange
        cases hchange with
        | kept hkeeps =>
            have hwrites := writesSession_of_leaves hleaves
            rw [hkeeps] at hwrites
            cases hwrites
        | rotated update => exact Option.some_ne_none _
        | deleted => cases hleaves
        | created items item habsent hput => exact Option.some_ne_none _
    | cons latest newer =>
        obtain ⟨rfl, hrest⟩ := List.cons.inj hhistory
        rw [List.forall_mem_cons] at hunwritten
        rw [lookup_of_unwritten hchange hunwritten.1]
        exact ih newer older entry hrest hleaves hunwritten.2
  · intro before after req history hframed ih newer older entry hhistory
      hleaves hunwritten
    rw [hframed.sessions]
    exact ih newer older entry hhistory hleaves hunwritten

/-- Access tokens are minted for sessions in the table only. -/
theorem present_of_signing
    (hbase : (machine cfg).Reach earlier (start clock) first)
    (hquiescent : quiescent first = true)
    (honeByOne : ∀ current label,
      admissible current label → oneByOne current label)
    (hreach : (machine cfg).Reach admissible first pool) {id : ℕ}
    {call : Call} {privateKey keyID : String} {claims : Claims}
    {response : Op.Res (.signedString privateKey keyID claims)}
    {after : Store}
    (hexec : Exec cfg pool id call (.signedString privateKey keyID claims)
      response after) :
    pool.store.sessions.lookup claims.sessionID ≠ none := by
  have hunfinished := Pool.unfinished_of_nextOp hexec.lookup hexec.nextOp
  have hguard := hexec.guarded
  cases hreq : call.req with
  | requestOTP | logout => exact (hreq ▸ hguard).elim
  | verifyOTP phone otpCandidate deviceID =>
      rw [hreq] at hguard
      obtain ⟨items, item, base, hput, -, key, kid, now, -, hhistory⟩ := hguard
      have hsplit : call.history = [⟨.uuidNewString, claims.id⟩,
          ⟨.clockNow, now⟩, ⟨.signingKey, .ok (key, kid)⟩] ++
          ⟨.transactWriteItems items, .ok ()⟩ :: base := hhistory
      refine written_stands hbase hquiescent honeByOne hreach hexec.lookup
        hunfinished hsplit ?_ ?_
      · simp [leavesSession, createdSessions, hput]
      · simp [writesSession]
  | refreshTokens accessToken refreshToken deviceID =>
      rw [hreq] at hguard
      obtain ⟨look, newRefresh, now, -, key, kid, signedAt, hclaims,
        hhistory⟩ := hguard
      have hsession : claims.sessionID = look.claims.sessionID := by
        rw [hclaims]
        rfl
      have hsplit : call.history = [⟨.uuidNewString, claims.id⟩,
          ⟨.clockNow, signedAt⟩, ⟨.signingKey, .ok (key, kid)⟩] ++
          ⟨.sessionsUpdateItem look.claims.sessionID
            (look.rotation cfg newRefresh now), .ok ()⟩ ::
          look.rotatingEntries newRefresh now := hhistory
      refine written_stands hbase hquiescent honeByOne hreach hexec.lookup
        hunfinished hsplit ?_ ?_
      · simp [leavesSession, hsession]
      · simp [writesSession]

/-- The session is gone, and no call that has arrived since has read it. -/
def Gone (first : Pool) (sessionID : String) (pool : Pool) : Prop :=
  pool.store.sessions.lookup sessionID = none ∧
    ∀ id call, first.calls.lookup id = none →
      pool.calls.lookup id = some call → ∀ item,
        (⟨.sessionsGetItem sessionID, .ok (some item)⟩ : Entry) ∉ call.history

/-- When calls are served one by one, a session that is gone stays away. -/
theorem gone_stays {middle : Pool}
    (hbase : (machine cfg).Reach earlier (start clock) first)
    (hquiescent : quiescent first = true)
    (honeByOne : ∀ current label,
      admissible current label → oneByOne current label)
    (hmiddle : (machine cfg).Reach admissible first middle)
    (hcreated : sessionID ∈ mentioned createdSession middle.log)
    (hgone : middle.store.sessions.lookup sessionID = none)
    (hreach : (machine cfg).Reach admissible middle pool) :
    Gone middle sessionID pool := by
  refine invariant_from (I := Gone middle sessionID)
    (reach_anyStep hbase hmiddle) ?_ ?_ ?_ ?_ hreach
  · refine ⟨hgone, ?_⟩
    intro id call hnew hcall
    rw [hnew] at hcall
    cases hcall
  · intro pool id req _ ih _ _ _
    refine ⟨ih.1, ?_⟩
    intro other call hnew hcall item hread
    rcases lookup_startCall hcall with ⟨-, hnil⟩ | hold
    · rw [hnil] at hread
      cases hread
    · exact ih.2 other call hnew hold item hread
  · intro pool id choice call op next response after hpool ih hexec _ hlater
    constructor
    · have hchange := sessionChange_of_effect sessionID hexec.guarded
        hexec.effect
      rw [ih.1] at hchange
      change after.sessions.lookup sessionID = none
      generalize after.sessions.lookup sessionID = item at hchange
      cases hchange with
      | kept | deleted => rfl
      | rotated update =>
          obtain ⟨_, _, _, look, _, _, _, _, _, _, _, hfound⟩ :=
            rotation_of_exec hbase hquiescent honeByOne (hmiddle.trans hpool)
              hexec
          rw [ih.1] at hfound
          cases hfound
      | created items item habsent hput =>
          -- No session is created twice.
          have hnodup := createdSession_nodup
            (reach_anyStep (reach_anyStep hbase (hmiddle.trans hpool)) hlater)
          rw [Pool.execCall, mentioned_cons] at hnodup
          refine (List.nodup_append.mp hnodup).2.2 sessionID ?_ sessionID
            ((hpool.log_suffix.filterMap _).subset hcreated) rfl |>.elim
          simp [createdSession, createdSessions, hput]
    · intro other later hnew hcall item hread
      rcases lookup_execCall hcall with ⟨rfl, -, hhistory⟩ | ⟨-, hold⟩
      · rw [hhistory] at hread
        rcases List.mem_cons.mp hread with hentry | hrest
        · cases hentry
          have hfound : some item = pool.store.sessions.lookup sessionID :=
            hexec.answers
          rw [ih.1] at hfound
          cases hfound
        · exact ih.2 other call hnew hexec.lookup item hrest
      · exact ih.2 other later hnew hold item hread
  · intro pool change after _ ih hadvance _ _
    refine ⟨?_, ih.2⟩
    change after.sessions.lookup sessionID = none
    rw [(framed_of_advance hadvance).sessions]
    exact ih.1

end Sessions

end MessagingPlatform.WholeCalls
