import MessagingPlatform.System.Commits
import MessagingPlatform.System.Deployment

/-!
# Rotation of refresh tokens

A refresh compares the presented token with the session it has read and then
writes the new hash in a second, unconditional request, so two refreshes that
read the same session both write.  If every rotation finds the hash that its
call has read, each refresh token is exchanged at most once and no rotation is
lost.
-/

namespace MessagingPlatform.RefreshRotation

open Program
open Interleaving
open Instants
open Records
open Primitives
open Tables
open Operations
open Effects
open Freshness
open StoreRules
open SessionRules
open VerifyRules
open Service
open ServiceRules
open MessagingPlatform.Runs
open Commits
open Deployment

variable {cfg : AuthServiceConfig} {admissible : Pool → Label → Prop}
variable {clock : Time} {pool : Pool}

/-- A rotation is written over the hash that it replaces. -/
def rotationMatches (store : Store) (op : Op) : Prop :=
  ∀ rotation ∈ op.rotation, ∃ item ∈ store.sessions.lookup rotation.1,
    item.refreshTokenHash = rotation.2.prevTokenHash

instance (store : Store) (op : Op) : Decidable (rotationMatches store op) :=
  inferInstanceAs (Decidable (∀ _ ∈ op.rotation, _))

/-- The step condition under which a refresh token is exchanged once. -/
def rotationsMatch : Pool → Label → Prop := whenPerforming rotationMatches

instance (pool : Pool) (label : Label) :
    Decidable (rotationsMatch pool label) :=
  inferInstanceAs (Decidable (whenPerforming rotationMatches pool label))

section Hashes

/-- The session that a performed request wrote, with the hash it stored. -/
def written : Entry → Option (String × String)
  | ⟨.sessionsUpdateItem sessionID update, .ok ()⟩ =>
      some (sessionID, update.refreshTokenHash)
  | ⟨.transactWriteItems items, .ok ()⟩ =>
      (putSessions items).head?.map fun row =>
        (row.1, row.2.refreshTokenHash)
  | _ => none

def writtenHash (entry : Entry) : Option String :=
  (written entry).map Prod.snd

/-- The hash of a value that a random source handed out. -/
def issuedHash (cfg : AuthServiceConfig) (entry : Entry) : Option String :=
  (issuedValue entry).map (hashRefreshToken cfg)

theorem issuedHash_nodup (hsha : Function.Injective cfg.sha256Hex)
    (hreach : (machine cfg).Reach admissible (start clock) pool) :
    (mentioned (issuedHash cfg) pool.log).Nodup := by
  have hmap : mentioned (issuedHash cfg) pool.log =
      (mentioned issuedValue pool.log).map (hashRefreshToken cfg) :=
    mentioned_map (hashRefreshToken cfg) issuedValue pool.log
  rw [hmap]
  exact (issued_nodup hreach).map hsha

/-- What a call writes is the hash of a token it has drawn. -/
theorem writtenHash_drawn {req : Request} {older : History} {op : Op}
    {response : op.Res} {hash : String} (hguard : guard cfg req older op)
    (hwritten : writtenHash ⟨op, response⟩ = some hash) :
    ∃ entry ∈ older, issuedHash cfg entry = some hash := by
  cases op with
  | sessionsUpdateItem sessionID update =>
      obtain ⟨accessToken, refreshToken, deviceID, look, newRefresh, now, -, -,
        -, hupdate, holder⟩ := rotation_of_guard hguard
      cases response with
      | error cause => cases hwritten
      | ok done =>
          cases hwritten
          rw [hupdate, holder]
          exact ⟨⟨.randToken, .ok newRefresh⟩, by simp [Lookup.rotatingEntries],
            rfl⟩
  | transactWriteItems items =>
      obtain ⟨phone, otpCandidate, deviceID, created, userID, -, hproposal⟩ :=
        proposal_of_guard hguard
      cases response with
      | error cause => cases hwritten
      | ok done =>
          simp only [writtenHash, written, hproposal.creates, List.head?_cons,
            Option.map_some, Option.some.injEq] at hwritten
          subst hwritten
          exact ⟨_, hproposal.drawnToken, rfl⟩
  | _ => cases hwritten

/-- A call writes once. -/
theorem writtenHash_once {req : Request} {older : History} {op : Op}
    {response : op.Res} {hash : String}
    (hconforms : Conforms (guard cfg req) older)
    (hguard : guard cfg req older op)
    (hwritten : writtenHash ⟨op, response⟩ = some hash) {entry : Entry}
    (hentry : entry ∈ older) : writtenHash entry = none := by
  cases op with
  | sessionsUpdateItem sessionID update =>
      obtain ⟨accessToken, refreshToken, deviceID, look, newRefresh, now, -, -,
        -, -, holder⟩ := rotation_of_guard hguard
      have hquiet : ∀ entry ∈ older, writtenHash entry = none := by
        rw [holder]
        simp [Lookup.rotatingEntries, Lookup.entries, writtenHash, written]
      exact hquiet entry hentry
  | transactWriteItems items =>
      obtain ⟨phone, otpCandidate, deviceID, created, userID, hreq,
        hproposal⟩ := proposal_of_guard hguard
      have huncommitted := hproposal.uncommitted entry hentry
      obtain ⟨previous, -, hearlier⟩ := hconforms.guard_of_mem hentry
      rw [hreq] at hearlier
      obtain ⟨earlier, answer⟩ := entry
      cases earlier with
      | sessionsUpdateItem sessionID update => exact hearlier.elim
      | transactWriteItems writes =>
          cases answer with
          | error cause => rfl
          | ok done => cases huncommitted
      | _ => rfl
  | _ => cases hwritten

theorem writtenHash_nodup (hsha : Function.Injective cfg.sha256Hex)
    (hreach : (machine cfg).Reach admissible (start clock) pool) :
    (mentioned writtenHash pool.log).Nodup := by
  apply uses_nodup (sat_program cfg)
    (fun pool hpool => issuedHash_nodup hsha hpool) ?_ ?_ hreach
  · intro req older op response hash hguard hwritten
    exact writtenHash_drawn hguard hwritten
  · intro req older op response hash hconforms hguard hwritten entry hentry
    rw [writtenHash_once hconforms hguard hwritten hentry]
    exact Option.some_ne_none _ |>.symm

end Hashes

section Ledger

/-- What the log says about the stored hashes.  Each stored hash was written
there; a hash that a rotation has replaced was written before and is stored no
more; and a hash that was written is stored, was replaced by a rotation, or its
session is gone. -/
structure Rotations (pool : Pool) : Prop where
  stored : ∀ sessionID item,
    pool.store.sessions.lookup sessionID = some item →
      (sessionID, item.refreshTokenHash) ∈ mentioned written pool.log
  replaced : ∀ row ∈ mentioned rotated pool.log,
    row ∈ mentioned written pool.log
  superseded : ∀ row ∈ mentioned rotated pool.log, ∀ item,
    pool.store.sessions.lookup row.1 = some item →
      item.refreshTokenHash ≠ row.2
  once : (mentioned rotated pool.log).Nodup
  current : ∀ row ∈ mentioned written pool.log,
    pool.store.sessions.lookup row.1 = none ∨
      (∃ item, pool.store.sessions.lookup row.1 = some item ∧
        item.refreshTokenHash = row.2) ∨
      row ∈ mentioned rotated pool.log
  created : ∀ row ∈ mentioned written pool.log,
    row.1 ∈ mentioned createdSession pool.log

/-- A step that writes no hash and only takes sessions away. -/
theorem Rotations.shrink {later : Pool} (hrotations : Rotations pool)
    (hwritten : mentioned written later.log = mentioned written pool.log)
    (hrotated : mentioned rotated later.log = mentioned rotated pool.log)
    (hcreated : mentioned createdSession later.log =
      mentioned createdSession pool.log)
    (hsessions : ∀ sessionID,
      later.store.sessions.lookup sessionID = none ∨
        later.store.sessions.lookup sessionID =
          pool.store.sessions.lookup sessionID) : Rotations later := by
  have hheld : ∀ sessionID item,
      later.store.sessions.lookup sessionID = some item →
        pool.store.sessions.lookup sessionID = some item := by
    intro sessionID item hitem
    cases hsessions sessionID with
    | inl hnone =>
        rw [hnone] at hitem
        cases hitem
    | inr hsame => exact hsame ▸ hitem
  constructor
  · intro sessionID item hitem
    rw [hwritten]
    exact hrotations.stored sessionID item (hheld sessionID item hitem)
  · rw [hwritten, hrotated]
    exact hrotations.replaced
  · rw [hrotated]
    intro row hrow item hitem
    exact hrotations.superseded row hrow item (hheld row.1 item hitem)
  · rw [hrotated]
    exact hrotations.once
  · rw [hwritten, hrotated]
    intro row hrow
    cases hsessions row.1 with
    | inl hnone => exact Or.inl hnone
    | inr hsame =>
        rw [hsame]
        exact hrotations.current row hrow
  · rw [hwritten, hcreated]
    exact hrotations.created

variable {id : ℕ} {call : Call} {op : Op}
variable {next : op.Res → Prog Op Op.Res Outcome} {response : op.Res}
variable {after : Store}

theorem mentioned_execCall {Value : Type} (extract : Entry → Option Value) :
    mentioned extract (pool.execCall id call op next response after).log =
      (extract ⟨op, response⟩).toList ++ mentioned extract pool.log :=
  mentioned_cons extract _ pool.log

/-- A hash that is written now was not written before. -/
theorem not_written_before {row : String × String}
    (hnodup : (mentioned writtenHash
      (pool.execCall id call op next response after).log).Nodup)
    (hnew : written ⟨op, response⟩ = some row) (sessionID : String) :
    (sessionID, row.2) ∉ mentioned written pool.log := by
  intro hold
  rw [mentioned_execCall, writtenHash, hnew] at hnodup
  apply (List.nodup_cons.mp hnodup).1
  obtain ⟨event, hevent, hvalue⟩ := mem_mentioned.mp hold
  exact mem_mentioned.mpr ⟨event, hevent, by rw [writtenHash, hvalue]; rfl⟩

theorem written_of_keepsStore {entry : Entry}
    (hkeeps : keepsStore entry = true) :
    written entry = none ∧ rotated entry = none ∧
      createdSession entry = none := by
  obtain ⟨op, response⟩ := entry
  cases op with
  | sessionsUpdateItem | transactWriteItems =>
      cases response with
      | error cause => exact ⟨rfl, rfl, rfl⟩
      | ok done => cases hkeeps
  | _ => exact ⟨rfl, rfl, rfl⟩

/-- A write of a session under a fresh hash that counts as a rotation exactly
when it replaces an item. -/
theorem Rotations.write {sessionID : String} {item : SessionItem}
    (hrotations : Rotations pool)
    (hsessions : after.sessions = pool.store.sessions.insert sessionID item)
    (hwritten : written ⟨op, response⟩ =
      some (sessionID, item.refreshTokenHash))
    (hrotated : rotated ⟨op, response⟩ =
      (pool.store.sessions.lookup sessionID).map fun old =>
        (sessionID, old.refreshTokenHash))
    (hcreated : sessionID ∈ mentioned createdSession
      (pool.execCall id call op next response after).log)
    (habsent : pool.store.sessions.lookup sessionID = none →
      sessionID ∉ mentioned createdSession pool.log)
    (hnodup : (mentioned writtenHash
      (pool.execCall id call op next response after).log).Nodup) :
    Rotations (pool.execCall id call op next response after) := by
  have hsame : (pool.execCall id call op next response
      after).store.sessions.lookup sessionID = some item := by
    change after.sessions.lookup sessionID = some item
    rw [hsessions, AList.lookup_insert]
  have hother : ∀ other, other ≠ sessionID →
      (pool.execCall id call op next response after).store.sessions.lookup
        other = pool.store.sessions.lookup other := by
    intro other hne
    change after.sessions.lookup other = _
    rw [hsessions, AList.lookup_insert_ne hne]
  have hlogWritten : mentioned written
      (pool.execCall id call op next response after).log =
        (sessionID, item.refreshTokenHash) :: mentioned written pool.log := by
    rw [mentioned_execCall, hwritten]
    rfl
  have hlogRotated : ∀ row, row ∈ mentioned rotated
      (pool.execCall id call op next response after).log ↔
        (∃ old, pool.store.sessions.lookup sessionID = some old ∧
          row = (sessionID, old.refreshTokenHash)) ∨
        row ∈ mentioned rotated pool.log := by
    intro row
    rw [mentioned_execCall, hrotated, List.mem_append]
    simp [eq_comm]
  have hreplaced : ∀ row ∈ mentioned rotated
      (pool.execCall id call op next response after).log,
        row ∈ mentioned written pool.log := by
    intro row hrow
    rcases (hlogRotated row).mp hrow with ⟨old, hold, rfl⟩ | hearlier
    · exact hrotations.stored sessionID old hold
    · exact hrotations.replaced row hearlier
  constructor
  · intro other found hfound
    rw [hlogWritten]
    by_cases hne : other = sessionID
    · rw [hne, hsame, Option.some.injEq] at hfound
      rw [hne, ← hfound]
      exact List.mem_cons_self
    · rw [hother other hne] at hfound
      exact List.mem_cons_of_mem _ (hrotations.stored other found hfound)
  · intro row hrow
    rw [hlogWritten]
    exact List.mem_cons_of_mem _ (hreplaced row hrow)
  · intro row hrow found hfound heq
    by_cases hne : row.1 = sessionID
    · rw [hne, hsame, Option.some.injEq] at hfound
      apply not_written_before hnodup hwritten row.1
      rw [hfound, heq]
      exact hreplaced row hrow
    · rw [hother row.1 hne] at hfound
      rcases (hlogRotated row).mp hrow with ⟨old, hold, rfl⟩ | hearlier
      · exact hne rfl
      · exact hrotations.superseded row hearlier found hfound heq
  · rw [mentioned_execCall, hrotated]
    cases hold : pool.store.sessions.lookup sessionID with
    | none => exact hrotations.once
    | some old =>
        refine List.nodup_cons.mpr ⟨?_, hrotations.once⟩
        intro hagain
        exact hrotations.superseded _ hagain old hold rfl
  · intro row hrow
    rw [hlogWritten] at hrow
    rw [hlogRotated]
    rcases List.mem_cons.mp hrow with rfl | hearlier
    · exact Or.inr (Or.inl ⟨item, hsame, rfl⟩)
    · by_cases hne : row.1 = sessionID
      · right; right
        rcases hrotations.current row hearlier with hnone | hstored | hgone
        · rw [hne] at hnone
          exact absurd (hne ▸ hrotations.created row hearlier) (habsent hnone)
        · obtain ⟨found, hfound, hhash⟩ := hstored
          exact Or.inl ⟨found, hne ▸ hfound, Prod.ext hne hhash.symm⟩
        · exact Or.inr hgone
      · rw [hother row.1 hne]
        rcases hrotations.current row hearlier with hnone | hstored | hgone
        · exact Or.inl hnone
        · exact Or.inr (Or.inl hstored)
        · exact Or.inr (Or.inr (Or.inr hgone))
  · intro row hrow
    rw [hlogWritten] at hrow
    rcases List.mem_cons.mp hrow with rfl | hearlier
    · exact hcreated
    · rw [mentioned_execCall]
      exact List.mem_append_right _ (hrotations.created row hearlier)

/-- The ledger is kept by every request, if rotations match. -/
theorem rotations_exec (hrotations : Rotations pool)
    (hexec : Exec cfg pool id call op response after)
    (hcondition : rotationMatches pool.store op)
    (hhashes : (mentioned writtenHash
      (pool.execCall id call op next response after).log).Nodup)
    (hsessions : (mentioned createdSession
      (pool.execCall id call op next response after).log).Nodup) :
    Rotations (pool.execCall id call op next response after) := by
  have heffect := hexec.effect
  cases heffect with
  | unchanged hkeeps =>
      obtain ⟨hwritten, hrotated, hcreated⟩ := written_of_keepsStore hkeeps
      apply hrotations.shrink
      · rw [mentioned_execCall, hwritten]
        rfl
      · rw [mentioned_execCall, hrotated]
        rfl
      · rw [mentioned_execCall, hcreated]
        rfl
      · intro sessionID
        exact Or.inr rfl
  | sessionDeleted sessionID =>
      refine hrotations.shrink rfl rfl rfl fun other => ?_
      by_cases hne : other = sessionID
      · left
        rw [hne]
        exact AList.lookup_erase _ _
      · right
        exact AList.lookup_erase_ne hne
  | sessionUpdated sessionID update =>
      obtain ⟨old, hold, hhash⟩ := hcondition _ rfl
      have hlookup : pool.store.sessions.lookup sessionID = some old := hold
      apply hrotations.write rfl rfl
      · rw [hlookup, Option.map_some, hhash]
        rfl
      · rw [mentioned_execCall]
        apply List.mem_append_right
        exact hrotations.created _ (hrotations.stored sessionID old hlookup)
      · intro hnone
        rw [hlookup] at hnone
        cases hnone
      · exact hhashes
  | committed items hholds =>
      obtain ⟨phone, otpCandidate, deviceID, tried, created, userID, item, -,
        hcommit⟩ := commit_of_exec hexec
      have hcreated : createdSession ⟨.transactWriteItems items, .ok ()⟩ =
          some created.sessionID := by
        simp [createdSession, createdSessions, hcommit.proposal.creates]
      rw [mentioned_execCall, hcreated] at hsessions
      apply hrotations.write hcommit.sessions
      · simp [written, hcommit.proposal.creates]
      · rw [hcommit.absent]
        rfl
      · rw [mentioned_execCall, hcreated]
        exact List.mem_cons_self
      · intro _
        exact (List.nodup_cons.mp hsessions).1
      · exact hhashes
  | _ => exact hrotations.shrink rfl rfl rfl fun sessionID => Or.inr rfl

theorem rotations (hsha : Function.Injective cfg.sha256Hex)
    (hreach : (machine cfg).Reach rotationsMatch (start clock) pool) :
    Rotations pool := by
  refine invariant ?_ ?_ ?_ ?_ hreach
  · constructor <;> simp [start, Pool.initial, Store.empty]
  · intro pool id req _ ih _ _ _
    exact ih.shrink rfl rfl rfl fun sessionID => Or.inr rfl
  · intro pool id choice call op next response after hpool ih hexec hcondition
      hlater
    exact rotations_exec ih hexec (hcondition op hexec.nextOp)
      (writtenHash_nodup hsha (hpool.trans hlater))
      (createdSession_nodup (hpool.trans hlater))
  · intro pool change after _ ih hadvance _ _
    refine ih.shrink rfl rfl rfl fun sessionID => Or.inr ?_
    change after.sessions.lookup sessionID = _
    rw [(framed_of_advance hadvance).sessions]

end Ledger

section Exchange

/-- The refresh token that a request presents. -/
def presentedToken : Request → Option String
  | .refreshTokens _ refreshToken _ => some refreshToken
  | _ => none

/-- The token has been exchanged: a refresh that presented it has written its
session, and has returned new tokens unless minting failed. -/
def Exchanged (pool : Pool) (refreshToken : String) : Prop :=
  ∃ id call, pool.calls.lookup id = some call ∧
    presentedToken call.req = some refreshToken ∧
    ((refreshResult call).isSome = true ∨
      ∃ added older, call.history = added ++ older ∧ MintFailed added)

/-- A successful refresh has logged its rotation. -/
theorem rotation_logged
    (hreach : (machine cfg).Reach admissible (start clock) pool) {id : ℕ}
    {call : Call} {accessToken refreshToken deviceID : String}
    {result : RefreshResult} (hcall : pool.calls.lookup id = some call)
    (hreq : call.req = .refreshTokens accessToken refreshToken deviceID)
    (hresult : refreshResult call = some result) :
    ∃ look : Lookup, look.Current cfg accessToken refreshToken deviceID ∧
      ∃ event ∈ pool.log, event.call = id ∧
        rotated event.entry =
          some (look.claims.sessionID, hashRefreshToken cfg refreshToken) ∧
        written event.entry = some (look.claims.sessionID,
          hashRefreshToken cfg result.refreshToken) := by
  have hpost := hreach.post_of_returned (sat_program cfg) hcall
    (rest_of_refreshResult hresult)
  rw [hreq] at hpost
  obtain ⟨look, now, added, hcurrent, -, hhistory⟩ := hpost
  have hperformed : (⟨.sessionsUpdateItem look.claims.sessionID
      (look.rotation cfg result.refreshToken now), .ok ()⟩ : Entry) ∈
        call.history := by
    rw [hhistory]
    simp
  obtain ⟨event, hevent, hid, hentry⟩ := hreach.event_of_mem hcall hperformed
  have hhash : hashRefreshToken cfg refreshToken =
      look.item.refreshTokenHash := beq_iff_eq.mp hcurrent.current
  refine ⟨look, hcurrent, event, hevent, hid, ?_, ?_⟩
  · rw [hentry, hhash]
    rfl
  · rw [hentry]
    rfl

/-- A hash belongs to one session. -/
theorem written_unique (hsha : Function.Injective cfg.sha256Hex)
    (hreach : (machine cfg).Reach admissible (start clock) pool)
    {left right : String × String}
    (hleft : left ∈ mentioned written pool.log)
    (hright : right ∈ mentioned written pool.log)
    (hhash : left.2 = right.2) : left = right := by
  obtain ⟨event, hevent, hvalue⟩ := mem_mentioned.mp hleft
  obtain ⟨event', hevent', hvalue'⟩ := mem_mentioned.mp hright
  have hleftHash : writtenHash event.entry = some left.2 := by
    rw [writtenHash, hvalue, Option.map_some]
  have hrightHash : writtenHash event'.entry = some left.2 := by
    rw [writtenHash, hvalue', Option.map_some, hhash]
  have hsame := event_unique (writtenHash_nodup hsha hreach) hevent hevent'
    hleftHash hrightHash
  rw [hsame, hvalue', Option.some.injEq] at hvalue
  exact hvalue.symm

/-- A token whose hash a rotation has replaced was exchanged, once all calls
have returned. -/
theorem exchanged_of_rotated (hsha : Function.Injective cfg.sha256Hex)
    (hreach : (machine cfg).Reach admissible (start clock) pool)
    (hfinished : ∀ id call, pool.calls.lookup id = some call →
      call.rest.finished = true)
    {sessionID refreshToken : String}
    (hrotated : (sessionID, hashRefreshToken cfg refreshToken) ∈
      mentioned rotated pool.log) : Exchanged pool refreshToken := by
  obtain ⟨event, hevent, hvalue⟩ := mem_mentioned.mp hrotated
  obtain ⟨call, hcall, hsuffix, hguard⟩ :=
    hreach.event_guard (sat_program cfg) hevent
  obtain ⟨update, hprev, hentry⟩ := entry_of_rotated hvalue
  rw [hentry] at hguard
  obtain ⟨accessToken, presented, deviceID, look, newRefresh, now, hreq,
    hcurrent, -, hupdate, -⟩ := rotation_of_guard hguard
  have hpresented : presented = refreshToken := by
    apply hsha
    calc
      hashRefreshToken cfg presented = look.item.refreshTokenHash :=
        beq_iff_eq.mp hcurrent.current
      _ = update.prevTokenHash := by rw [hupdate]; rfl
      _ = hashRefreshToken cfg refreshToken := hprev
  subst presented
  refine ⟨event.call, call, hcall, by rw [hreq]; rfl, ?_⟩
  have hdone := hfinished event.call call hcall
  cases hrest : call.rest with
  | call op next =>
      rw [hrest] at hdone
      cases hdone
  | pure outcome =>
      have hpost := hreach.post_of_returned (sat_program cfg) hcall hrest
      rw [hreq] at hpost
      cases outcome with
      | refreshTokens outcome =>
          cases outcome with
          | ok result =>
              left
              simp [refreshResult, hrest]
          | error err =>
              right
              cases RefreshFailed.unrotated hpost with
              | inl hunrotated =>
                  have hnone := hunrotated event.entry
                    (hsuffix.subset List.mem_cons_self)
                  rw [hvalue] at hnone
                  cases hnone
              | inr hfailed => exact hfailed
      | _ => exact hpost.elim

end Exchange

/-- In every run in which each rotation is written over the hash that its call
has read, at most one refresh that presents a given token succeeds.  When all
calls have returned, the token it returned hashes to the stored hash, unless
its session is gone or the token was exchanged in turn. -/
theorem refresh_token_exchanged_once (cfg : AuthServiceConfig)
    (hsha : Function.Injective cfg.sha256Hex) (clock : Time) (pool : Pool)
    (hreach : (machine cfg).Reach rotationsMatch (start clock) pool) :
    (∀ id other call call' refreshToken,
      pool.calls.lookup id = some call → pool.calls.lookup other = some call' →
      presentedToken call.req = some refreshToken →
      presentedToken call'.req = some refreshToken →
      (refreshResult call).isSome = true →
      (refreshResult call').isSome = true → id = other) ∧
    ((∀ id call, pool.calls.lookup id = some call →
        call.rest.finished = true) →
      ∀ id call accessToken refreshToken deviceID result,
        pool.calls.lookup id = some call →
        call.req = .refreshTokens accessToken refreshToken deviceID →
        refreshResult call = some result →
        ∃ now claims, validateIgnoreExpiry cfg now accessToken = .ok claims ∧
          (pool.store.sessions.lookup claims.sessionID = none ∨
            (∃ item, pool.store.sessions.lookup claims.sessionID = some item ∧
              item.refreshTokenHash =
                hashRefreshToken cfg result.refreshToken) ∨
            Exchanged pool result.refreshToken)) := by
  have hrotations := rotations hsha hreach
  have hrequest : ∀ {call : Call} {refreshToken : String},
      presentedToken call.req = some refreshToken →
        ∃ accessToken deviceID,
          call.req = .refreshTokens accessToken refreshToken deviceID := by
    intro call refreshToken hpresented
    cases hreq : call.req with
    | refreshTokens accessToken presented deviceID =>
        rw [hreq] at hpresented
        cases hpresented
        exact ⟨accessToken, deviceID, rfl⟩
    | _ =>
        rw [hreq] at hpresented
        cases hpresented
  constructor
  · intro id other call call' refreshToken hcall hcall' hpresented hpresented'
      hresult hresult'
    obtain ⟨accessToken, deviceID, hreq⟩ := hrequest hpresented
    obtain ⟨accessToken', deviceID', hreq'⟩ := hrequest hpresented'
    obtain ⟨result, hresult⟩ := Option.isSome_iff_exists.mp hresult
    obtain ⟨result', hresult'⟩ := Option.isSome_iff_exists.mp hresult'
    obtain ⟨look, -, event, hevent, hid, hrotated, -⟩ :=
      rotation_logged hreach hcall hreq hresult
    obtain ⟨look', -, event', hevent', hid', hrotated', -⟩ :=
      rotation_logged hreach hcall' hreq' hresult'
    have hrow := hrotations.replaced _
      (mem_mentioned.mpr ⟨event, hevent, hrotated⟩)
    have hrow' := hrotations.replaced _
      (mem_mentioned.mpr ⟨event', hevent', hrotated'⟩)
    rw [written_unique hsha hreach hrow' hrow rfl] at hrotated'
    have hsame := event_unique hrotations.once hevent hevent' hrotated
      hrotated'
    rw [← hid, ← hid', hsame]
  · intro hfinished id call accessToken refreshToken deviceID result hcall hreq
      hresult
    obtain ⟨look, hcurrent, event, hevent, -, -, hwritten⟩ :=
      rotation_logged hreach hcall hreq hresult
    refine ⟨look.validatedAt, look.claims, hcurrent.validated, ?_⟩
    rcases hrotations.current _
      (mem_mentioned.mpr ⟨event, hevent, hwritten⟩) with hgone | hstored |
        hreplaced
    · exact Or.inl hgone
    · exact Or.inr (Or.inl hstored)
    · exact Or.inr (Or.inr
        (exchanged_of_rotated hsha hreach hfinished hreplaced))

section Schedules

/-- A session that has been refreshed once. -/
def rotatedOnce : Pool :=
  (machine (deployment [firstClaims])).runTo rotationsMatch (start evening)
    (registration ++
      serve 2 (.refreshTokens (tokenText firstClaims) refreshA "device-a")
        (rotating refreshB ++
          .ok :: minting "44444444-4444-4444-8444-444444444444"))

theorem rotatedOnce_exchanged_once :
    (∀ other call, rotatedOnce.calls.lookup other = some call →
      presentedToken call.req = some refreshA →
      (refreshResult call).isSome = true → 2 = other) ∧
    ∃ now claims, validateIgnoreExpiry (deployment [firstClaims]) now
        (tokenText firstClaims) = .ok claims ∧
      (rotatedOnce.store.sessions.lookup claims.sessionID = none ∨
        (∃ item,
          rotatedOnce.store.sessions.lookup claims.sessionID = some item ∧
          item.refreshTokenHash =
            hashRefreshToken (deployment [firstClaims]) refreshB) ∨
        Exchanged rotatedOnce refreshB) := by
  have hfacts : (∃ call ∈ rotatedOnce.calls.lookup 2,
        call.req = .refreshTokens (tokenText firstClaims) refreshA
          "device-a" ∧
        (refreshResult call).map RefreshResult.refreshToken =
          some refreshB) ∧
      ∀ row ∈ rotatedOnce.calls.entries, row.2.rest.finished = true := by
    decide +kernel
  obtain ⟨⟨call, hcall, hreq, hresult⟩, hfinished⟩ := hfacts
  obtain ⟨result, hresult, htoken⟩ := Option.map_eq_some_iff.mp hresult
  have htheorem := refresh_token_exchanged_once (deployment [firstClaims])
    (exchange digests).injective evening rotatedOnce (Machine.reach_runTo _)
  constructor
  · intro other call' hcall' hpresented hresult'
    exact htheorem.1 2 other call call' refreshA hcall hcall'
      (by rw [hreq]; rfl) hpresented (by rw [hresult]; rfl) hresult'
  · rw [← htoken]
    exact htheorem.2
      (fun id call hcall =>
        hfinished ⟨id, call⟩ (AList.mem_lookup_iff.mp hcall))
      2 call _ _ _ result hcall hreq hresult

/-- Two refreshes that present the same token, and both read the session before
either writes it. -/
def exchangedTwice : Pool :=
  (machine (deployment [firstClaims])).runTo withoutFaults (start evening)
    (registration ++
      serve 2 (.refreshTokens (tokenText firstClaims) refreshA "device-a")
        (rotating refreshB) ++
      serve 3 (.refreshTokens (tokenText firstClaims) refreshA "device-a")
        (rotating refreshC) ++
      resume 2 (.ok :: minting "44444444-4444-4444-8444-444444444444") ++
      resume 3 (.ok :: minting "55555555-5555-4555-8555-555555555555"))

/-- Without the condition the property fails: both refreshes succeed, and the
token that the first one returned is neither stored nor exchanged. -/
theorem two_refreshes_exchange_one_token :
    (machine (deployment [firstClaims])).Reach withoutFaults (start evening)
        exchangedTwice ∧
      (∃ call ∈ exchangedTwice.calls.lookup 2,
        presentedToken call.req = some refreshA ∧
        (refreshResult call).map RefreshResult.refreshToken = some refreshB) ∧
      (∃ call ∈ exchangedTwice.calls.lookup 3,
        presentedToken call.req = some refreshA ∧
        (refreshResult call).isSome = true) ∧
      (∀ row ∈ exchangedTwice.calls.entries, row.2.rest.finished = true) ∧
      (∃ item ∈ exchangedTwice.store.sessions.lookup session,
        item.refreshTokenHash ≠
          hashRefreshToken (deployment [firstClaims]) refreshB) ∧
      ∀ row ∈ exchangedTwice.calls.entries,
        presentedToken row.2.req ≠ some refreshB := by
  refine ⟨Machine.reach_runTo _, ?_⟩
  decide +kernel

end Schedules

end MessagingPlatform.RefreshRotation
