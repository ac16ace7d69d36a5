import MessagingPlatform.System.RefreshCalls
import MessagingPlatform.System.RefreshRotation

/-!
# The chain of refresh tokens of a session

The tokens that were issued for a session, newest first, against the two
hashes and the counter that its record holds.  The chain is kept by every run
in which calls are served one after another, so a whole refresh can be judged
by the place of its token in the chain.
-/

namespace MessagingPlatform.RefreshChain

open Program
open Interleaving
open Instants
open Errors
open Records
open Primitives
open Tables
open Operations
open Effects
open Freshness
open MessagingPlatform.Sequential
open Stores
open SessionRules
open VerifyRules
open Service
open ServiceRules
open MessagingPlatform.Runs
open Commits
open WholeCalls
open ReportedEnd
open AbsoluteLifetime
open RefreshRotation
open RefreshCalls
open Deployment

section Definitions

/-- The refresh token that a write of the session's record has issued. -/
def issuedTo (sessionID : String) (event : Event) : Option String :=
  if leavesSession sessionID event.entry then
    event.older.findSome? generatedToken
  else none

/-- The refresh tokens issued for a session, newest first. -/
def tokensOf (pool : Pool) (sessionID : String) : List String :=
  pool.log.filterMap (issuedTo sessionID)

/-- The call that has rotated the session. -/
def rotator (sessionID : String) (event : Event) : Option ℕ :=
  match event.entry with
  | ⟨.sessionsUpdateItem written _, .ok ()⟩ =>
      if written = sessionID then some event.call else none
  | _ => none

def rotators (pool : Pool) (sessionID : String) : List ℕ :=
  pool.log.filterMap (rotator sessionID)

/-- A refresh of the session that has succeeded. -/
def refreshed (cfg : AuthServiceConfig) (sessionID : String) (call : Call) :
    Bool :=
  (refreshResult call).isSome && (namedSession cfg call == some sessionID)

/-- The number of successful refreshes of a session. -/
def successes (cfg : AuthServiceConfig) (pool : Pool) (sessionID : String) :
    ℕ :=
  (pool.calls.entries.filter fun row => refreshed cfg sessionID row.2).length

/-- What the record of a session says of the tokens issued for it. -/
structure Chain (cfg : AuthServiceConfig) (item : SessionItem)
    (tokens : List String) (rotations : ℕ) : Prop where
  latest : tokens.head?.map (hashRefreshToken cfg) =
    some item.refreshTokenHash
  previous : item.prevTokenHash =
    (tokens.tail.head?.map (hashRefreshToken cfg)).getD ""
  length : tokens.length = rotations + 1
  generation : item.tokenGeneration = .ofNat (rotations + 1)

/-- The session is created before it is written, and its record follows the
chain of its tokens. -/
structure Chained (cfg : AuthServiceConfig) (sessionID : String)
    (pool : Pool) : Prop where
  created : ∀ event ∈ pool.log, leavesSession sessionID event.entry = true →
    sessionID ∈ mentioned createdSession pool.log
  held : ∀ item, pool.store.sessions.lookup sessionID = some item →
    Chain cfg item (tokensOf pool sessionID) (rotators pool sessionID).length
  once : (rotators pool sessionID).Nodup

end Definitions

variable {cfg : AuthServiceConfig} {admissible : Pool → Label → Prop}
variable {clock : Time} {pool : Pool} {sessionID : String}

section Chains

variable {item : SessionItem} {tokens : List String} {rotations : ℕ}

theorem Chain.created {created : NewSession}
    {userID deviceID : String} :
    Chain cfg (NewSession.item cfg created userID deviceID)
      [created.refreshToken] 0 :=
  ⟨rfl, rfl, rfl, rfl⟩

theorem Chain.rotated (hchain : Chain cfg item tokens rotations)
    (newRefresh : String) (now : Time) :
    Chain cfg (rotatedItem cfg item newRefresh now) (newRefresh :: tokens)
      (rotations + 1) where
  latest := rfl
  previous := by
    rw [List.tail_cons, hchain.latest]
    rfl
  length := by rw [List.length_cons, hchain.length]
  generation := by
    change item.tokenGeneration + 1 = _
    rw [hchain.generation, Int64.ofNat_add (rotations + 1)]
    rfl

theorem Chain.eq_cons (hchain : Chain cfg item tokens rotations) :
    ∃ latest older, tokens = latest :: older := by
  have hlatest := hchain.latest
  cases tokens with
  | nil => cases hlatest
  | cons latest older => exact ⟨latest, older, rfl⟩

end Chains

section Steps

variable {id : ℕ} {call : Call} {op : Op}
variable {next : op.Res → Prog Op Op.Res Outcome} {response : op.Res}
variable {after : Store}

theorem tokensOf_execCall :
    tokensOf (pool.execCall id call op next response after) sessionID =
      (issuedTo sessionID
        ⟨id, call.history, ⟨op, response⟩, pool.store, after⟩).toList ++
        tokensOf pool sessionID := by
  unfold tokensOf Pool.execCall
  rw [List.filterMap_cons]
  split
  · next hissued => simp [hissued]
  · next hissued => simp [hissued]

theorem rotators_execCall :
    rotators (pool.execCall id call op next response after) sessionID =
      (rotator sessionID
        ⟨id, call.history, ⟨op, response⟩, pool.store, after⟩).toList ++
        rotators pool sessionID := by
  unfold rotators Pool.execCall
  rw [List.filterMap_cons]
  split
  · next hrotator => simp [hrotator]
  · next hrotator => simp [hrotator]

theorem leavesSession_of_rotator {event : Event}
    (hrotator : rotator sessionID event = some id) :
    leavesSession sessionID event.entry = true ∧ event.call = id ∧
      ∃ update, event.entry = ⟨.sessionsUpdateItem sessionID update, .ok ()⟩ :=
    by
  obtain ⟨caller, older, entry, before, after⟩ := event
  unfold rotator at hrotator
  split at hrotator
  · next written update hentry =>
      split at hrotator
      · next hsession =>
          cases hentry
          cases hrotator
          subst hsession
          exact ⟨by simp [leavesSession], rfl, update, rfl⟩
      · cases hrotator
  · cases hrotator

/-- A request that does not leave the session in the table extends no chain. -/
theorem chains_of_kept
    (hkeeps : leavesSession sessionID ⟨op, response⟩ = false) :
    tokensOf (pool.execCall id call op next response after) sessionID =
        tokensOf pool sessionID ∧
      rotators (pool.execCall id call op next response after) sessionID =
        rotators pool sessionID := by
  have hissued : issuedTo sessionID
      ⟨id, call.history, ⟨op, response⟩, pool.store, after⟩ = none := by
    simp [issuedTo, hkeeps]
  have hrotator : rotator sessionID
      ⟨id, call.history, ⟨op, response⟩, pool.store, after⟩ = none := by
    apply Option.eq_none_iff_forall_ne_some.mpr
    intro caller hcaller
    have hleaves := (leavesSession_of_rotator hcaller).1
    rw [hkeeps] at hleaves
    cases hleaves
  rw [tokensOf_execCall, rotators_execCall, hissued, hrotator]
  exact ⟨rfl, rfl⟩

theorem Chained.kept (hchained : Chained cfg sessionID pool)
    (hkeeps : leavesSession sessionID ⟨op, response⟩ = false)
    (hheld : ∀ item, after.sessions.lookup sessionID = some item →
      pool.store.sessions.lookup sessionID = some item) :
    Chained cfg sessionID
      (pool.execCall id call op next response after) := by
  constructor
  · intro event hevent hleaves
    rcases List.mem_cons.mp hevent with rfl | hold
    · rw [hkeeps] at hleaves
      cases hleaves
    · rw [Pool.execCall, mentioned_cons]
      exact List.mem_append_right _ (hchained.created event hold hleaves)
  · intro item hitem
    rw [(chains_of_kept hkeeps).1, (chains_of_kept hkeeps).2]
    exact hchained.held item (hheld item hitem)
  · rw [(chains_of_kept hkeeps).2]
    exact hchained.once

/-- A session in the table has been created. -/
theorem Chained.created_of_held (hchained : Chained cfg sessionID pool)
    {item : SessionItem}
    (hitem : pool.store.sessions.lookup sessionID = some item) :
    sessionID ∈ mentioned createdSession pool.log := by
  obtain ⟨latest, older, htokens⟩ := (hchained.held item hitem).eq_cons
  have hlatest : latest ∈ tokensOf pool sessionID := by simp [htokens]
  obtain ⟨event, hevent, hissued⟩ := List.mem_filterMap.mp hlatest
  refine hchained.created event hevent ?_
  by_contra hkeeps
  simp [issuedTo, hkeeps] at hissued

/-- A session that is not created yet has no chain. -/
theorem Chained.nil_of_uncreated (hchained : Chained cfg sessionID pool)
    (hfresh : sessionID ∉ mentioned createdSession pool.log) :
    tokensOf pool sessionID = [] ∧ rotators pool sessionID = [] := by
  have hkeeps : ∀ event ∈ pool.log,
      leavesSession sessionID event.entry = false := by
    intro event hevent
    rw [← Bool.not_eq_true]
    exact fun hleaves => hfresh (hchained.created event hevent hleaves)
  constructor
  · apply List.filterMap_eq_nil_iff.mpr
    intro event hevent
    simp [issuedTo, hkeeps event hevent]
  · apply List.filterMap_eq_nil_iff.mpr
    intro event hevent
    apply Option.eq_none_iff_forall_ne_some.mpr
    intro caller hcaller
    have hleaves := (leavesSession_of_rotator hcaller).1
    rw [hkeeps event hevent] at hleaves
    cases hleaves

/-- The rotation of a session extends its chain. -/
theorem Chained.rotate {update : SessionUpdate} {look : Lookup}
    {newRefresh : String} {now : Time}
    {next : Op.Res (.sessionsUpdateItem sessionID update) →
      Prog Op Op.Res Outcome}
    (hchained : Chained cfg sessionID pool)
    (hreach : (machine cfg).Reach admissible (start clock) pool)
    (hcall : pool.calls.lookup id = some call)
    (hhistory : call.history = look.rotatingEntries newRefresh now)
    (hlook : pool.store.sessions.lookup sessionID = some look.item)
    (hafter : after.sessions.lookup sessionID =
      some (rotatedItem cfg look.item newRefresh now)) :
    Chained cfg sessionID (pool.execCall id call
      (.sessionsUpdateItem sessionID update) next (.ok ()) after) := by
  have htokens : tokensOf (pool.execCall id call
      (.sessionsUpdateItem sessionID update) next (.ok ()) after) sessionID =
        newRefresh :: tokensOf pool sessionID := by
    have hlast : (look.rotatingEntries newRefresh now).findSome?
        generatedToken = some newRefresh := rfl
    rw [tokensOf_execCall, hhistory]
    simp [issuedTo, leavesSession, hlast]
  have hrotators : rotators (pool.execCall id call
      (.sessionsUpdateItem sessionID update) next (.ok ()) after) sessionID =
        id :: rotators pool sessionID := by
    rw [rotators_execCall]
    simp [rotator]
  constructor
  · intro _ _ _
    rw [Pool.execCall, mentioned_cons]
    exact List.mem_append_right _ (hchained.created_of_held hlook)
  · intro item hitem
    change after.sessions.lookup sessionID = some item at hitem
    rw [hafter, Option.some.injEq] at hitem
    rw [htokens, hrotators, ← hitem]
    exact (hchained.held look.item hlook).rotated newRefresh now
  · rw [hrotators, List.nodup_cons]
    refine ⟨?_, hchained.once⟩
    -- Before its update a refresh has written nothing.
    intro hbefore
    obtain ⟨event, hevent, hrotator⟩ := List.mem_filterMap.mp hbefore
    obtain ⟨-, hid, written, hentry⟩ := leavesSession_of_rotator hrotator
    obtain ⟨found, hfound, hsuffix⟩ := hreach.logSound.recorded event hevent
    rw [hid, hcall, Option.some.injEq] at hfound
    have hmem := hsuffix.subset List.mem_cons_self
    rw [hentry, ← hfound, hhistory] at hmem
    simp [Lookup.rotatingEntries, Lookup.entries] at hmem

/-- The creation of a session starts its chain. -/
theorem Chained.create {items : List TransactWriteItem}
    {next : Op.Res (.transactWriteItems items) → Prog Op Op.Res Outcome}
    {created : NewSession} {userID deviceID : String}
    (hchained : Chained cfg created.sessionID pool)
    (hfresh : created.sessionID ∉ mentioned createdSession pool.log)
    (hproposal : Proposal cfg deviceID call.history items created userID)
    (hafter : after.sessions.lookup created.sessionID =
      some (NewSession.item cfg created userID deviceID)) :
    Chained cfg created.sessionID (pool.execCall id call
      (.transactWriteItems items) next (.ok ()) after) := by
  obtain ⟨hnone, hunrotated⟩ := hchained.nil_of_uncreated hfresh
  have htokens : tokensOf (pool.execCall id call (.transactWriteItems items)
      next (.ok ()) after) created.sessionID = [created.refreshToken] := by
    rw [tokensOf_execCall, hnone]
    simp [issuedTo, leavesSession, createdSessions, hproposal.creates,
      hproposal.lastToken]
  have hrotators : rotators (pool.execCall id call (.transactWriteItems items)
      next (.ok ()) after) created.sessionID = [] := by
    rw [rotators_execCall, hunrotated]
    rfl
  constructor
  · intro _ _ _
    rw [Pool.execCall, mentioned_cons]
    apply List.mem_append_left
    simp [createdSession, createdSessions, hproposal.creates]
  · intro item hitem
    change after.sessions.lookup created.sessionID = some item at hitem
    rw [hafter, Option.some.injEq] at hitem
    rw [htokens, hrotators, ← hitem]
    exact .created
  · rw [hrotators]
    exact List.nodup_nil

theorem Chained.exec
    (honeByOne : ∀ current label,
      admissible current label → oneByOne current label)
    (hreach : (machine cfg).Reach admissible (start clock) pool)
    (hchained : Chained cfg sessionID pool)
    (hexec : Exec cfg pool id call op response after)
    (hlater : (machine cfg).Reach admissible pool
      (pool.execCall id call op next response after)) :
    Chained cfg sessionID
      (pool.execCall id call op next response after) := by
  have hchange := sessionChange_of_effect sessionID hexec.guarded hexec.effect
  generalize hafter : after.sessions.lookup sessionID = found at hchange
  cases hchange with
  | kept hkeeps =>
      refine hchained.kept ?_ ?_
      · rw [← Bool.not_eq_true] at hkeeps ⊢
        exact fun hleaves => hkeeps (writesSession_of_leaves hleaves)
      · intro item hitem
        rw [← hafter]
        exact hitem
  | deleted =>
      refine hchained.kept rfl ?_
      intro item hitem
      rw [hafter] at hitem
      cases hitem
  | rotated update =>
      have hbase : (machine cfg).Reach anyStep (start clock) (start clock) :=
        .refl
      obtain ⟨_, _, _, look, newRefresh, now, _, _, _, rfl, hhistory, hlook⟩ :=
        rotation_of_exec hbase rfl honeByOne hreach hexec
      rw [hlook] at hafter
      exact hchained.rotate hreach hexec.lookup hhistory hlook hafter
  | created items item habsent hput =>
      obtain ⟨_, _, deviceID, created, userID, -, hproposal⟩ :=
        proposal_of_guard hexec.guarded
      have hcreates := hproposal.creates
      rw [hput, List.singleton_inj, Prod.mk.injEq] at hcreates
      obtain ⟨rfl, rfl⟩ := hcreates
      refine hchained.create ?_ hproposal hafter
      intro hbefore
      have hnodup := createdSession_nodup (hreach.trans hlater)
      rw [Pool.execCall, mentioned_cons] at hnodup
      refine (List.nodup_append.mp hnodup).2.2 created.sessionID ?_
        created.sessionID hbefore rfl
      simp [createdSession, createdSessions, hput]

end Steps

/-- The record of a session follows the chain of its tokens, if calls are
served one after another. -/
theorem chained_of_reach
    (honeByOne : ∀ current label,
      admissible current label → oneByOne current label)
    (hreach : (machine cfg).Reach admissible (start clock) pool) :
    Chained cfg sessionID pool := by
  refine invariant (I := Chained cfg sessionID) ?_ ?_ ?_ ?_ hreach
  · constructor
    · intro event hevent
      cases hevent
    · intro item hitem
      simp [start, Pool.initial, Store.empty] at hitem
    · exact List.nodup_nil
  · intro pool id req _ ih _ _ _
    exact ⟨ih.created, ih.held, ih.once⟩
  · intro pool id choice call op next response after hpool ih hexec _ hlater
    exact ih.exec honeByOne hpool hexec hlater
  · intro pool change after _ ih hadvance _ _
    refine ⟨ih.created, ?_, ih.once⟩
    intro item hitem
    change after.sessions.lookup sessionID = some item at hitem
    rw [(framed_of_advance hadvance).sessions] at hitem
    exact ih.held item hitem

section Successes

variable {id : ℕ} {call : Call}

/-- No request of a run without faults has failed. -/
theorem unfailed_of_reach
    (hfaultless : ∀ current label, admissible current label → faultless label)
    (hreach : (machine cfg).Reach admissible (start clock) pool)
    (hcall : pool.calls.lookup id = some call) {entry : Entry}
    (hentry : entry ∈ call.history) : failed entry = false := by
  refine Machine.Reach.invariant (I := fun pool => ∀ id call,
    pool.calls.lookup id = some call → ∀ entry ∈ call.history,
      failed entry = false) ?_ ?_ ?_ ?_ hreach id call hcall entry hentry
  · intro id call hcall
    simp [start, Pool.initial] at hcall
  · intro pool id req _ ih _ _ other call hcall entry hentry
    rcases lookup_startCall hcall with ⟨-, hnil⟩ | hold
    · rw [hnil] at hentry
      cases hentry
    · exact ih other call hold entry hentry
  · intro pool id choice call op next response after _ ih hlookup _ hperform
      hallowed other later hlater entry hentry
    rcases lookup_execCall hlater with ⟨-, -, hhistory⟩ | ⟨-, hold⟩
    · rw [hhistory] at hentry
      rcases List.mem_cons.mp hentry with rfl | hrest
      · exact unfailed_of_effect (effect_of_unfaulted
          (unfaulted_of_faultless (hfaultless pool _ hallowed)) hperform)
      · exact ih id call hlookup entry hrest
    · exact ih other later hold entry hentry
  · intro pool change after _ ih _ _
    exact ih

/-- A refresh that has rotated a session succeeds if its requests do. -/
theorem refreshed_of_rotator
    (hreach : (machine cfg).Reach orderly (start clock) pool)
    (hquiescent : quiescent pool = true)
    (hrotates : id ∈ rotators pool sessionID) :
    ∃ call, pool.calls.lookup id = some call ∧
      refreshed cfg sessionID call = true := by
  obtain ⟨event, hevent, hrotator⟩ := List.mem_filterMap.mp hrotates
  obtain ⟨-, rfl, update, hentry⟩ := leavesSession_of_rotator hrotator
  obtain ⟨call, hcall, hsuffix, hguard⟩ :=
    hreach.event_guard (sat_program cfg) hevent
  rw [hentry] at hguard hsuffix
  obtain ⟨accessToken, refreshToken, deviceID, look, newRefresh, now, hreq,
    hcurrent, rfl, -, holder⟩ := rotation_of_guard hguard
  have hfirst : [⟨.clockNow, look.validatedAt⟩] <:+ call.history := by
    refine List.IsSuffix.trans ?_ ((List.suffix_cons _ _).trans hsuffix)
    rw [holder]
    exact Lookup.validated_first look [_, _]
  have hnamed := namedSession_of_validated hreq hcurrent.validated hfirst
  have hupdated := hsuffix.subset List.mem_cons_self
  refine ⟨call, hcall, ?_⟩
  cases hrest : call.rest with
  | call op next =>
      have hfinished := finished_of_quiescent hquiescent hcall
      rw [hrest] at hfinished
      cases hfinished
  | pure outcome =>
      have hpost := hreach.post_of_returned (sat_program cfg) hcall hrest
      rw [hreq] at hpost
      cases outcome with
      | refreshTokens outcome =>
          cases outcome with
          | ok result => simp [refreshed, refreshResult, hrest, hnamed]
          | error err =>
              -- Only a failed mint comes after the rotation.
              exfalso
              have hunfailed : ∀ entry ∈ call.history, failed entry = false :=
                fun entry hentry => unfailed_of_reach
                  (fun _ _ horderly => horderly.2) hreach hcall hentry
              rcases RefreshFailed.unrotated hpost with hunrotated |
                ⟨added, older, hhistory, hmint⟩
              · have hnone := hunrotated _ hupdated
                cases hnone
              · rw [hhistory] at hunfailed
                rcases hmint with ⟨cause, rest, rfl⟩ |
                  ⟨key, keyID, claims, cause, rest, rfl⟩
                · have hdone := hunfailed _ List.mem_cons_self
                  cases hdone
                · have hdone := hunfailed _ List.mem_cons_self
                  cases hdone
      | _ => exact hpost.elim

/-- A refresh that has succeeded has rotated its session. -/
theorem rotator_of_refreshed
    (hreach : (machine cfg).Reach admissible (start clock) pool)
    (hcall : pool.calls.lookup id = some call)
    (hrefreshed : refreshed cfg sessionID call = true) :
    id ∈ rotators pool sessionID := by
  simp only [refreshed, Bool.and_eq_true, beq_iff_eq] at hrefreshed
  obtain ⟨hsuccess, hnamed⟩ := hrefreshed
  obtain ⟨result, hresult⟩ := Option.isSome_iff_exists.mp hsuccess
  obtain ⟨look, now, added, hlook, -, hhistory⟩ :=
    rotation_of_refreshed hreach hcall hresult
  rw [hlook, Option.some.injEq] at hnamed
  have hupdated : (⟨.sessionsUpdateItem look.claims.sessionID
      (look.rotation cfg result.refreshToken now), .ok ()⟩ : Entry) ∈
      call.history := by simp [hhistory]
  obtain ⟨event, hevent, hid, hentry⟩ := hreach.event_of_mem hcall hupdated
  refine List.mem_filterMap.mpr ⟨event, hevent, ?_⟩
  simp [rotator, hentry, hnamed, hid]

/-- When every call has returned, the rotations of a session are its successful
refreshes. -/
theorem rotators_length
    (hreach : (machine cfg).Reach orderly (start clock) pool)
    (hquiescent : quiescent pool = true) :
    (rotators pool sessionID).length = successes cfg pool sessionID := by
  have hkeys : ((pool.calls.entries.filter fun row =>
      refreshed cfg sessionID row.2).map Sigma.fst).Nodup :=
    List.NodupKeys.sublist List.filter_sublist pool.calls.nodupKeys
  have honce : (rotators pool sessionID).Nodup :=
    (chained_of_reach (fun _ _ horderly => horderly.1) hreach).once
  have hperm : (rotators pool sessionID).Perm
      ((pool.calls.entries.filter fun row =>
        refreshed cfg sessionID row.2).map Sigma.fst) := by
    refine (List.perm_ext_iff_of_nodup honce hkeys).mpr fun id => ?_
    simp only [List.mem_map, List.mem_filter]
    constructor
    · intro hrotates
      obtain ⟨call, hcall, hrefreshed⟩ :=
        refreshed_of_rotator hreach hquiescent hrotates
      exact ⟨⟨id, call⟩, ⟨AList.mem_lookup_iff.mp hcall, hrefreshed⟩, rfl⟩
    · rintro ⟨⟨other, call⟩, ⟨hentry, hrefreshed⟩, rfl⟩
      exact rotator_of_refreshed hreach (AList.mem_lookup_iff.mpr hentry)
        hrefreshed
  rw [hperm.length_eq, List.length_map]
  rfl

end Successes

section Tokens

/-- What a write of the record stores is the hash of the token it issues. -/
theorem writtenHash_of_issued
    (hreach : (machine cfg).Reach admissible (start clock) pool)
    {event : Event} (hevent : event ∈ pool.log) {token : String}
    (hissued : issuedTo sessionID event = some token) :
    writtenHash event.entry = some (hashRefreshToken cfg token) := by
  obtain ⟨call, -, -, hguard⟩ := hreach.event_guard (sat_program cfg) hevent
  obtain ⟨id, older, ⟨op, response⟩, before, after⟩ := event
  unfold issuedTo at hissued
  split at hissued
  · next hleaves =>
      cases op with
      | sessionsUpdateItem written update =>
          obtain ⟨_, _, _, look, newRefresh, now, -, -, -, hupdate, holder⟩ :=
            rotation_of_guard hguard
          cases response with
          | error cause => cases hleaves
          | ok done =>
              dsimp only at hissued holder
              rw [holder] at hissued
              cases hissued
              rw [hupdate]
              rfl
      | transactWriteItems items =>
          obtain ⟨_, _, _, created, userID, -, hproposal⟩ :=
            proposal_of_guard hguard
          cases response with
          | error cause => cases hleaves
          | ok done =>
              have hlast := hproposal.lastToken
              dsimp only at hissued hlast
              rw [hissued, Option.some.injEq] at hlast
              rw [hlast]
              simp [writtenHash, written, hproposal.creates, NewSession.item,
                sessionAttributes]
      | _ => cases hleaves
  · cases hissued

/-- The tokens of a session are pairwise different. -/
theorem tokensOf_nodup (sessionID : String)
    (hsha : Function.Injective cfg.sha256Hex)
    (hreach : (machine cfg).Reach admissible (start clock) pool) :
    (tokensOf pool sessionID).Nodup := by
  have hsublist : ∀ log : List Event, (∀ event ∈ log, event ∈ pool.log) →
      ((log.filterMap (issuedTo sessionID)).map
        (hashRefreshToken cfg)).Sublist (mentioned writtenHash log) := by
    intro log hlog
    induction log with
    | nil => exact .slnil
    | cons event older ih =>
        rw [List.forall_mem_cons] at hlog
        rw [mentioned_cons, List.filterMap_cons]
        split
        · exact (ih hlog.2).trans (List.sublist_append_right _ _)
        · next token hissued =>
            rw [writtenHash_of_issued hreach hlog.1 hissued]
            exact (ih hlog.2).cons_cons _
  have hhashes := (writtenHash_nodup hsha hreach).sublist
    (hsublist pool.log fun _ hevent => hevent)
  exact List.Nodup.of_map _ hhashes

/-- A rotation has added its token, and nothing else, to the chain: the token
right below is the one that was on top. -/
theorem tokens_of_rotation (hsha : Function.Injective cfg.sha256Hex)
    {item : SessionItem} {tokens later : List String} {earlier rotations : ℕ}
    {newRefresh : String} {now : Time}
    (hchain : Chain cfg item tokens earlier)
    (hrotated : Chain cfg (rotatedItem cfg item newRefresh now) later
      rotations)
    (hnodup : later.Nodup) (hsuffix : tokens <:+ later) :
    later = newRefresh :: tokens := by
  obtain ⟨added, rfl⟩ := hsuffix
  obtain ⟨latest, older, rfl⟩ := hchain.eq_cons
  have htop : hashRefreshToken cfg latest = item.refreshTokenHash :=
    Option.some.inj hchain.latest
  have hprevious : item.refreshTokenHash = _ := hrotated.previous
  cases added with
  | nil =>
      have hsame : rotations = earlier := by
        have hlength := hchain.length.symm.trans hrotated.length
        omega
      have hgeneration : item.tokenGeneration + 1 = _ := hrotated.generation
      -- The `int64` has been counted up, and would be what it was.
      rw [hsame, ← hchain.generation] at hgeneration
      simp at hgeneration
  | cons token rest =>
      have htoken : token = newRefresh :=
        hsha (Option.some.inj hrotated.latest)
      cases rest with
      | nil => rw [htoken]; rfl
      | cons second others =>
          have hsecond : latest = second := hsha (htop.trans hprevious)
          subst hsecond
          simp at hnodup

end Tokens

section WholeRefreshes

variable {first ended : Pool} {id : ℕ} {call : Call}

/-- A whole call without a failing request keeps a run orderly. -/
theorem reach_of_served
    (hserved : Served cfg withoutFaults first ended id call)
    (hbase : (machine cfg).Reach orderly (start clock) first) :
    (machine cfg).Reach orderly (start clock) ended := by
  have harrival : (machine cfg).step first (.start id call.req) =
      some (first.startCall (machine cfg) id call.req) := by
    simp [Machine.step, hserved.arrives]
  have hallowed : orderly first (.start id call.req) :=
    ⟨hserved.quiescent, trivial⟩
  refine (hbase.step hallowed harrival).trans (hserved.alone.mono ?_)
  intro current label hallowed
  refine ⟨?_, hallowed.1⟩
  cases label with
  | start other req => exact hallowed.2.elim
  | exec | env => trivial

variable {refreshToken latest : String} {item : SessionItem}
variable {older : List String} {rotations : ℕ}

/-- The token on top of the chain matches the stored hash, and no other
does. -/
theorem validate_latest (hsha : Function.Injective cfg.sha256Hex)
    (hchain : Chain cfg item (latest :: older) rotations) :
    validateRefreshHash cfg refreshToken item.refreshTokenHash = true ↔
      refreshToken = latest := by
  have hlatest : hashRefreshToken cfg latest = item.refreshTokenHash :=
    Option.some.inj hchain.latest
  rw [← hlatest, validateRefreshHash, beq_iff_eq]
  exact hsha.eq_iff

/-- The token below it matches the other hash, and no other does: the hash of
a session that was never rotated is empty, and no digest is. -/
theorem validate_previous (hsha : Function.Injective cfg.sha256Hex)
    (hdigest : ∀ text, cfg.sha256Hex text ≠ "")
    (hchain : Chain cfg item (latest :: older) rotations) :
    validateRefreshHash cfg refreshToken item.prevTokenHash = true ↔
      older.head? = some refreshToken := by
  rw [hchain.previous, validateRefreshHash, beq_iff_eq, List.tail_cons]
  cases older with
  | nil =>
      constructor
      · intro hempty
        exact (hdigest refreshToken hempty).elim
      · intro hnone
        cases hnone
  | cons previous oldest =>
      rw [List.head?_cons, Option.some.injEq]
      exact hsha.eq_iff.trans eq_comm

/-- A refresh with the token on top of the chain succeeds, writes five
attributes of the session, and puts the token that it returns on top. -/
theorem latest_succeeds (hsha : Function.Injective cfg.sha256Hex)
    (hbase : (machine cfg).Reach orderly (start clock) first)
    (hon : OnSession cfg first ended id call refreshToken sessionID item)
    (htokens : tokensOf first sessionID = latest :: older)
    (hpresented : refreshToken = latest) :
    ∃ result now,
      call.rest = .pure (.refreshTokens (.ok result)) ∧
      ended.store.sessions = first.store.sessions.insert sessionID
        (rotatedItem cfg item result.refreshToken now) ∧
      SameButSessions first.store ended.store ∧
      tokensOf ended sessionID = result.refreshToken :: latest :: older := by
  have hchained : ∀ pool, (machine cfg).Reach orderly (start clock) pool →
      Chained cfg sessionID pool := fun pool hreach =>
    chained_of_reach (fun _ _ horderly => horderly.1) hreach
  have hchain := (hchained first hbase).held item hon.found
  have hreach := reach_of_served hon.served hbase
  rw [htokens] at hchain
  have hcurrent := (validate_latest hsha hchain).mpr hpresented
  cases hon.outcome (hreach.mono fun _ _ _ => trivial) with
  | rotated result now _ hreturned hsessions hothers =>
      refine ⟨result, now, hreturned, hsessions, hothers, ?_⟩
      have hended := (hchained ended hreach).held
        (rotatedItem cfg item result.refreshToken now)
        (by rw [hsessions, AList.lookup_insert])
      refine tokens_of_rotation hsha hchain hended
        (tokensOf_nodup sessionID hsha hreach) ?_
      rw [← htokens]
      exact hon.served.alone.log_suffix.filterMap _
  | reused hother | unknown hother =>
      rw [hcurrent] at hother
      cases hother

/-- A refresh with the token below the top reports a reuse and deletes the
session. -/
theorem previous_reported (hsha : Function.Injective cfg.sha256Hex)
    (hdigest : ∀ text, cfg.sha256Hex text ≠ "")
    (hreach : (machine cfg).Reach anyStep (start clock) ended)
    (hon : OnSession cfg first ended id call refreshToken sessionID item)
    (hchain : Chain cfg item (latest :: older) rotations)
    (hdistinct : refreshToken ≠ latest)
    (hpresented : older.head? = some refreshToken) :
    call.rest =
        .pure (.refreshTokens (.error (.sentinel .errRefreshTokenReuse))) ∧
      ended.store.sessions = first.store.sessions.erase sessionID := by
  have hprevious := (validate_previous hsha hdigest hchain).mpr hpresented
  cases hon.outcome hreach with
  | rotated result now hcurrent =>
      exact (hdistinct ((validate_latest hsha hchain).mp hcurrent)).elim
  | reused _ _ hreturned hsessions => exact ⟨hreturned, hsessions⟩
  | unknown _ hother =>
      have hrotated : item.prevTokenHash ≠ "" := by
        rw [validateRefreshHash, beq_iff_eq] at hprevious
        rw [← hprevious]
        exact hdigest refreshToken
      rw [hother hrotated] at hprevious
      cases hprevious

/-- A refresh with any other token is refused and changes nothing. -/
theorem others_refused (hsha : Function.Injective cfg.sha256Hex)
    (hdigest : ∀ text, cfg.sha256Hex text ≠ "")
    (hreach : (machine cfg).Reach anyStep (start clock) ended)
    (hon : OnSession cfg first ended id call refreshToken sessionID item)
    (hchain : Chain cfg item (latest :: older) rotations)
    (hlatest : refreshToken ≠ latest)
    (hprevious : older.head? ≠ some refreshToken) :
    call.rest =
        .pure (.refreshTokens (.error (.sentinel .errInvalidRefreshToken))) ∧
      SameTables first.store ended.store := by
  cases hon.outcome hreach with
  | rotated result now hcurrent =>
      exact (hlatest ((validate_latest hsha hchain).mp hcurrent)).elim
  | reused _ hreused =>
      exact (hprevious
        ((validate_previous hsha hdigest hchain).mp hreused)).elim
  | unknown _ _ hreturned hsame => exact ⟨hreturned, hsame⟩

end WholeRefreshes

/-- The refreshes of a session, when every call is served alone and no request
fails.  The counter of a session that exists, an `int64`, is one more than the
number of its successful refreshes.  A refresh with the token issued last
succeeds and writes five attributes of that session; one with the token issued
just before reports a reuse and deletes the session; one with any other token
is refused and changes nothing. -/
theorem refresh_follows_chain (cfg : AuthServiceConfig) (clock : Time)
    (first : Pool) (sessionID : String) (item : SessionItem)
    (hsha : Function.Injective cfg.sha256Hex)
    (hdigest : ∀ text, cfg.sha256Hex text ≠ "")
    (hreach : (machine cfg).Reach orderly (start clock) first)
    (hquiescent : quiescent first = true)
    (hitem : first.store.sessions.lookup sessionID = some item) :
    item.tokenGeneration = .ofNat (1 + successes cfg first sessionID) ∧
    ∃ latest older, tokensOf first sessionID = latest :: older ∧
      (latest :: older).Nodup ∧
      ∀ ended id call refreshToken,
        OnSession cfg first ended id call refreshToken sessionID item →
        (refreshToken = latest → ∃ result now,
          call.rest = .pure (.refreshTokens (.ok result)) ∧
          ended.store.sessions = first.store.sessions.insert sessionID
            { item with
              refreshTokenHash := hashRefreshToken cfg result.refreshToken
              prevTokenHash := item.refreshTokenHash
              tokenGeneration := item.tokenGeneration + 1
              expiresAt := format (now + refreshTokenLifetime)
              ttl := unix (now + refreshTokenLifetime) } ∧
          SameButSessions first.store ended.store ∧
          tokensOf ended sessionID =
            result.refreshToken :: latest :: older) ∧
        (older.head? = some refreshToken →
          call.rest = .pure
            (.refreshTokens (.error (.sentinel .errRefreshTokenReuse))) ∧
          ended.store.sessions = first.store.sessions.erase sessionID) ∧
        (refreshToken ≠ latest → older.head? ≠ some refreshToken →
          call.rest = .pure
            (.refreshTokens (.error (.sentinel .errInvalidRefreshToken))) ∧
          SameTables first.store ended.store) := by
  have hchain := (chained_of_reach (fun _ _ horderly => horderly.1)
    hreach).held item hitem
  constructor
  · rw [hchain.generation, rotators_length hreach hquiescent, add_comm]
  · obtain ⟨latest, older, htokens⟩ := hchain.eq_cons
    have hnodup := tokensOf_nodup sessionID hsha hreach
    rw [htokens] at hnodup hchain
    refine ⟨latest, older, htokens, hnodup, ?_⟩
    intro ended id call refreshToken hon
    have hended : (machine cfg).Reach anyStep (start clock) ended :=
      hon.served.reach hreach
    refine ⟨latest_succeeds hsha hreach hon htokens, ?_,
      others_refused hsha hdigest hended hon hchain⟩
    intro hprevious
    refine previous_reported hsha hdigest hended hon hchain ?_ hprevious
    rintro rfl
    exact (List.nodup_cons.mp hnodup).1 (List.mem_of_mem_head? hprevious)

section Schedules

/-- SHA-256 on the texts of the table, and some longer text elsewhere. -/
def digestOf (text : String) : String :=
  match digests.find? fun row => row.1 == text with
  | some row => row.2
  | none => "~" ++ text

theorem digestOf_cases (text : String) :
    (∃ row ∈ digests, row.1 = text ∧ digestOf text = row.2) ∨
      digestOf text = "~" ++ text := by
  unfold digestOf
  split
  · next row hfind =>
      have hsame := List.find?_some hfind
      exact Or.inl ⟨row, List.mem_of_find?_eq_some hfind, beq_iff_eq.mp hsame,
        rfl⟩
  · exact Or.inr rfl

theorem digest_ne_tilde {row : String × String} (hrow : row ∈ digests)
    (text : String) : row.2 ≠ "~" ++ text := by
  have hheads : ∀ row ∈ digests, row.2.toList.head? ≠ some '~' := by
    decide +kernel
  intro htext
  apply hheads row hrow
  rw [htext, String.toList_append]
  rfl

theorem digestOf_injective : Function.Injective digestOf := by
  have htable : ∀ left ∈ digests, ∀ right ∈ digests, left.2 = right.2 →
      left.1 = right.1 := by decide +kernel
  intro left right hdigest
  rcases digestOf_cases left with ⟨row, hrow, rfl, hleft⟩ | hleft <;>
    rcases digestOf_cases right with ⟨other, hother, rfl, hright⟩ | hright <;>
    rw [hleft, hright] at hdigest
  · exact htable row hrow other hother hdigest
  · exact (digest_ne_tilde hrow right hdigest).elim
  · exact (digest_ne_tilde hother left hdigest.symm).elim
  · exact String.append_right_inj _ |>.mp hdigest

theorem digestOf_ne_empty (text : String) : digestOf text ≠ "" := by
  have htable : ∀ row ∈ digests, row.2 ≠ "" := by decide +kernel
  rcases digestOf_cases text with ⟨row, hrow, -, hdigest⟩ | hdigest
  · rw [hdigest]
    exact htable row hrow
  · rw [hdigest]
    simp

/-- A deployment whose digests are never empty. -/
def hashing : AuthServiceConfig :=
  { deployment [firstClaims] with sha256Hex := digestOf }

/-- A registered phone that has refreshed once. -/
def rotatedOnce : Pool :=
  (machine hashing).runTo orderly (start evening)
    (registration ++ refreshing 2 refreshA refreshB
      "44444444-4444-4444-8444-444444444444")

/-- A whole refresh after it. -/
def presenting (refreshToken : String) (choices : List Choice) : Pool :=
  (machine hashing).runTo (fun current label =>
      withoutFaults current label ∧ noArrival current label)
    (rotatedOnce.startCall (machine hashing) 3
      (.refreshTokens firstToken refreshToken "device-a"))
    (resume 3 choices)

/-- What is to be evaluated of such a refresh. -/
def presents (item : SessionItem) (refreshToken : String) (call : Call) :
    Prop :=
  call.req = .refreshTokens firstToken refreshToken
      (item.deviceID.getD "") ∧
    item.deviceID.getD "" = "device-a" ∧
    call.rest.finished = true ∧
    namedSession hashing call = some session ∧
    ∃ expiry ∈ parse item.expiresAt, ∀ checked ∈ checkedAt call,
      checked ≤ expiry

instance (item : SessionItem) (refreshToken : String) (call : Call) :
    Decidable (presents item refreshToken call) :=
  inferInstanceAs (Decidable (_ ∧ _))

theorem onSession_presenting {item : SessionItem} {refreshToken : String}
    {choices : List Choice} {call : Call}
    (hquiescent : quiescent rotatedOnce = true)
    (harrives : (rotatedOnce.calls.lookup 3).isNone = true)
    (hitem : item ∈ rotatedOnce.store.sessions.lookup session)
    (hcall : call ∈ (presenting refreshToken choices).calls.lookup 3)
    (hpresents : presents item refreshToken call) :
    OnSession hashing rotatedOnce (presenting refreshToken choices) 3 call
      refreshToken session item := by
  obtain ⟨hreq, hdevice, hreturned, hnamed, expiry, hexpiry, hchecked⟩ :=
    hpresents
  refine
    { served := ⟨hquiescent, Option.isNone_iff_eq_none.mp harrives, ?_, hcall,
        hreturned⟩
      found := hitem
      request := ⟨firstToken, hreq⟩
      named := hnamed
      unexpired := ⟨expiry, hexpiry, hchecked⟩ }
  rw [hreq, hdevice]
  exact Machine.reach_runTo _

end Schedules

/-- After one refresh the counter is two; the token of the registration is
reported as reused, the token of the refresh succeeds, and another one is
refused. -/
theorem rotatedOnce_follows_chain :
    (∃ item ∈ rotatedOnce.store.sessions.lookup session,
      item.tokenGeneration =
        .ofNat (1 + successes hashing rotatedOnce session)) ∧
    (∃ call ∈ (presenting refreshA [.ok, .ok, .ok, .ok, .ok]).calls.lookup 3,
      call.rest = .pure
        (.refreshTokens (.error (.sentinel .errRefreshTokenReuse)))) ∧
    (∃ call ∈ (presenting refreshB (rotating refreshC ++ .ok ::
        minting "55555555-5555-4555-8555-555555555555")).calls.lookup 3,
      ∃ result, call.rest = .pure (.refreshTokens (.ok result))) ∧
    ∃ call ∈ (presenting refreshC [.ok, .ok, .ok]).calls.lookup 3,
      call.rest = .pure
        (.refreshTokens (.error (.sentinel .errInvalidRefreshToken))) := by
  have hrun : quiescent rotatedOnce = true ∧
      (rotatedOnce.calls.lookup 3).isNone = true ∧
      tokensOf rotatedOnce session = [refreshB, refreshA] ∧
      ∃ item ∈ rotatedOnce.store.sessions.lookup session,
        (∃ call ∈ (presenting refreshA
          [.ok, .ok, .ok, .ok, .ok]).calls.lookup 3,
          presents item refreshA call) ∧
        (∃ call ∈ (presenting refreshB (rotating refreshC ++ .ok ::
          minting "55555555-5555-4555-8555-555555555555")).calls.lookup 3,
          presents item refreshB call) ∧
        ∃ call ∈ (presenting refreshC [.ok, .ok, .ok]).calls.lookup 3,
          presents item refreshC call := by
    decide +kernel
  obtain ⟨hquiescent, harrives, htokens, item, hitem, ⟨reuse, hreuse, hold⟩,
    ⟨next, hnext, hcurrent⟩, unknown, hunknown, hbogus⟩ := hrun
  obtain ⟨hgeneration, latest, older, hchain, -, hcalls⟩ :=
    refresh_follows_chain hashing evening rotatedOnce session item
      digestOf_injective digestOf_ne_empty (Machine.reach_runTo _) hquiescent
      hitem
  rw [htokens] at hchain
  obtain ⟨rfl, rfl⟩ := List.cons.inj hchain
  refine ⟨⟨item, hitem, hgeneration⟩, ⟨reuse, hreuse, ?_⟩, ⟨next, hnext, ?_⟩,
    unknown, hunknown, ?_⟩
  · exact ((hcalls _ 3 reuse refreshA (onSession_presenting hquiescent harrives
      hitem hreuse hold)).2.1 rfl).1
  · obtain ⟨result, now, hreturned, -⟩ := (hcalls _ 3 next refreshB
      (onSession_presenting hquiescent harrives hitem hnext hcurrent)).1 rfl
    exact ⟨result, hreturned⟩
  · exact ((hcalls _ 3 unknown refreshC (onSession_presenting hquiescent
      harrives hitem hunknown hbogus)).2.2 (by decide) (by decide)).1

end MessagingPlatform.RefreshChain
