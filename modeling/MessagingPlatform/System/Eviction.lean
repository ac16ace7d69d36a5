import MessagingPlatform.System.TokenSubjects
import MessagingPlatform.System.WholeCalls

/-!
# Evicted sessions and their access tokens

A login that evicts a session deletes it and revokes the identifier of the
session; the identifiers of its access tokens are not known to it.  The tokens
stay usable until they expire, which is bounded by their lifetime, since no
token is minted for a session that is gone.
-/

namespace MessagingPlatform.Eviction

open Program
open Interleaving
open Instants
open Errors
open Records
open Primitives
open Tables
open Operations
open Effects
open Freshness
open MessagingPlatform.Sequential
open Stores
open StoreRules
open Flows
open VerifyRules
open Service
open ServiceRules
open MessagingPlatform.Runs
open Commits
open SessionOrigins
open WholeCalls
open TokenSubjects
open Deployment

variable {cfg : AuthServiceConfig} {admissible : Pool → Label → Prop}
variable {clock : Time} {pool : Pool}

section Revocation

/-- What `IsRevoked` answers on a store when Redis does not fail. -/
def revokedIn (store : Store) (jti : String) : Bool :=
  (store.liveEntry (.revokedJTI jti)).isSome

/-- A verification revokes the sessions it has just deleted, by their own
identifiers, and nothing else. -/
theorem revoked_of_verify {phone otpCandidate deviceID jti : String}
    {ttlSeconds : ℕ} {older : History}
    (hguard : guard cfg (.verifyOTP phone otpCandidate deviceID) older
      (.redisSet (.revokedJTI jti) ttlSeconds)) :
    ∃ rest, older = ⟨.sessionsDeleteItem jti, .ok ()⟩ :: rest := by
  rcases hguard with ⟨hkey, -⟩ | ⟨login, done, session, rest, hkey, -, -, -,
    holder⟩
  · cases hkey
  · cases hkey
    exact ⟨_, holder⟩

/-- A request of a verification leaves the revocation of a token alone, unless
the identifier of the token is that of a session it has just deleted. -/
theorem revokedIn_of_verify {id : ℕ} {call : Call} {op : Op}
    {response : op.Res} {after : Store}
    {phone otpCandidate deviceID jti : String}
    (hexec : Exec cfg pool id call op response after)
    (hreq : call.req = .verifyOTP phone otpCandidate deviceID)
    (hother : (⟨.sessionsDeleteItem jti, .ok ()⟩ : Entry) ∉ call.history) :
    revokedIn after jti = revokedIn pool.store jti := by
  have hchange := hexec.effect.keyChange (.revokedJTI jti)
  have hguard := hexec.guarded
  rw [hreq] at hguard
  have hredis : after.redis (.revokedJTI jti) =
      pool.store.redis (.revokedJTI jti) := by
    generalize after.redis (.revokedJTI jti) = entry at hchange
    cases hchange with
    | kept => rfl
    | counted windowSeconds => cases hguard.1
    | set ttlSeconds =>
        obtain ⟨rest, hhistory⟩ := revoked_of_verify hguard
        rw [hhistory] at hother
        exact (hother List.mem_cons_self).elim
  rw [revokedIn, revokedIn, Store.liveEntry, Store.liveEntry, hredis,
    hexec.effect.clock]

end Revocation

section Evicted

/-- A deletion that does not fail removes the session. -/
theorem deleted_of_faultless {id : ℕ} {choice : Choice} {sessionID : String}
    {response : Op.Res (.sessionsDeleteItem sessionID)} {before after : Store}
    (hfaultless : faultless (.exec id choice))
    (hperform : perform cfg (.sessionsDeleteItem sessionID) choice before =
      some (response, after)) :
    after.sessions.lookup sessionID = none := by
  cases effect_of_unfaulted (unfaulted_of_faultless hfaultless) hperform
  exact AList.lookup_erase _ _

/-- The sessions that a query listed were created for the user it asked
for. -/
theorem origin_of_listed {id : ℕ} {call : Call} {userID : String}
    {now : TimeText} {rows : List (String × SessionItem)}
    (hreach : (machine cfg).Reach admissible (start clock) pool)
    (hcall : pool.calls.lookup id = some call)
    (hlisted : (⟨.sessionsQuery userID now, .ok rows⟩ : Entry) ∈
      call.history) {row : String × SessionItem} (hrow : row ∈ rows) :
    (row.1, userID) ∈ createdSessionUsers pool := by
  refine forall_entries (F := fun pool entry => ∀ userID now rows row,
    entry = ⟨.sessionsQuery userID now, .ok rows⟩ → row ∈ rows →
      (row.1, userID) ∈ createdSessionUsers pool) ?_ ?_ hreach hcall _ hlisted
    userID now rows row rfl hrow
  · intro pool later entry hentry hlater userID now rows row heq hrow
    exact origins_subset hlater (hentry userID now rows row heq hrow)
  · intro pool id choice call op next response after hpool hexec _ hlater
      userID now rows row heq hrow
    cases heq
    obtain ⟨keys, hperm, hrows⟩ := hexec.answers
    rw [hrows, Store.indexedSessions, List.mem_filterMap] at hrow
    obtain ⟨key, hkey, hfound⟩ := hrow
    obtain ⟨item, hitem, rfl⟩ := Option.map_eq_some_iff.mp hfound
    -- The index lists the session under the user that was asked for.
    have hactive := hperm.mem_iff.mp hkey
    simp only [Store.activeKeys, List.mem_map, List.mem_filter,
      Bool.and_eq_true, beq_iff_eq] at hactive
    obtain ⟨listed, ⟨hlisted, huser, -⟩, rfl⟩ := hactive
    have hsame : pool.store.userSessionsIndex.lookup listed.1 =
        some listed.2 := AList.mem_lookup_iff.mpr hlisted
    rw [hsame, Option.some.injEq] at hitem
    subst hitem
    exact origins_subset hlater
      (origin_of_index (fun _ _ => rfl) hpool hsame huser)

theorem listed_of_evicted {login : Login} {deviceID : String}
    {session : SessionRecord}
    (hsession : session ∈ login.evicted cfg deviceID) :
    ∃ row ∈ login.rows, row.1 = session.sessionID := by
  have hlisted : session ∈ listedSessions login.rows := by
    rcases List.mem_append.mp hsession with hconflicting | hexcess
    · exact List.mem_of_mem_filter hconflicting
    · unfold excessSessions at hexcess
      dsimp only at hexcess
      split at hexcess
      · cases hexcess
      · have hsorted := List.mem_of_mem_take hexcess
        exact List.mem_of_mem_filter
          ((cfg.sortSlice_perm _ _).mem_iff.mp hsorted)
  obtain ⟨row, hrow, rfl⟩ := List.mem_map.mp hlisted
  exact ⟨row, hrow, rfl⟩

/-- What a verification deletes was created as a session. -/
theorem created_of_evicting {id : ℕ} {call : Call}
    {phone otpCandidate deviceID sessionID : String}
    (hreach : (machine cfg).Reach admissible (start clock) pool)
    (hcall : pool.calls.lookup id = some call)
    (hguard : guard cfg (.verifyOTP phone otpCandidate deviceID) call.history
      (.sessionsDeleteItem sessionID)) :
    sessionID ∈ mentioned createdSession pool.log := by
  obtain ⟨login, done, session, rest, rfl, -, hevicted, hhistory⟩ := hguard
  obtain ⟨row, hrow, hsession⟩ :=
    listed_of_evicted (hevicted ▸ List.mem_append_right done List.mem_cons_self)
  have hlisted : (⟨.sessionsQuery login.userID (format login.listedAt),
      .ok login.rows⟩ : Entry) ∈ call.history := by
    rw [hhistory]
    simp [Login.evictedEntries, Login.listedEntries]
  have horigin := origin_of_listed hreach hcall hlisted hrow
  obtain ⟨event, hevent, hcreated⟩ := mem_mentioned.mp horigin
  rw [hsession] at hcreated
  exact mem_mentioned.mpr
    ⟨event, hevent, createdSession_of_createdWith hcreated⟩

end Evicted

section Tokens

/-- An access token expires `AccessTokenLifetime` after it was minted. -/
theorem expiry_of_minted {token : String} {claims : Claims}
    (hreach : (machine cfg).Reach admissible (start clock) pool)
    (hminted : (token, claims) ∈ mintedTokens pool) :
    ∃ now ≤ pool.store.clock,
      claims.expiresAt = some (unix (now + accessTokenLifetime)) := by
  obtain ⟨event, hevent, hsigned⟩ := mem_mentioned.mp hminted
  obtain ⟨call, hcall, hsuffix, hguard⟩ :=
    hreach.event_guard (sat_program cfg) hevent
  obtain ⟨privateKey, keyID, hop⟩ : ∃ privateKey keyID,
      event.entry.1 = .signedString privateKey keyID claims := by
    unfold minted at hsigned
    split at hsigned
    · next privateKey keyID signed text heq =>
        cases hsigned
        exact ⟨privateKey, keyID, congrArg Sigma.fst heq⟩
    · cases hsigned
  rw [hop] at hguard
  have hread : ∀ now, (⟨.clockNow, now⟩ : Entry) ∈ event.older →
      now ≤ pool.store.clock := fun now hmem =>
    read_le_clock hreach hcall
      (hsuffix.subset (List.mem_cons_of_mem _ hmem))
  cases hreq : call.req with
  | requestOTP | logout => exact (hreq ▸ hguard).elim
  | verifyOTP phone otpCandidate deviceID =>
      rw [hreq] at hguard
      obtain ⟨items, item, base, -, -, key, kid, now, hclaims, holder⟩ := hguard
      exact ⟨now, hread now (by simp [holder]), by rw [hclaims]; rfl⟩
  | refreshTokens accessToken refreshToken deviceID =>
      rw [hreq] at hguard
      obtain ⟨look, newRefresh, rotatedAt, -, key, kid, now, hclaims,
        holder⟩ := hguard
      exact ⟨now, hread now (by simp [holder]), by rw [hclaims]; rfl⟩

/-- No access token is minted for a session that is gone. -/
theorem minted_before {middle : Pool} {sessionID : String}
    (hbase : (machine cfg).Reach oneByOne (start clock) middle)
    (hcreated : sessionID ∈ mentioned createdSession middle.log)
    (hgone : middle.store.sessions.lookup sessionID = none)
    (hreach : (machine cfg).Reach oneByOne middle pool) :
    ∀ token claims, (token, claims) ∈ mintedTokens pool →
      claims.sessionID = sessionID → (token, claims) ∈ mintedTokens middle := by
  have hstart : (machine cfg).Reach oneByOne (start clock) (start clock) :=
    .refl
  have honeByOne : ∀ (current : Pool) (label : Label),
      oneByOne current label → oneByOne current label :=
    fun _ _ hallowed => hallowed
  refine invariant_from (I := fun pool => ∀ token claims,
    (token, claims) ∈ mintedTokens pool → claims.sessionID = sessionID →
      (token, claims) ∈ mintedTokens middle) hbase ?_ ?_ ?_ ?_ hreach
  · intro token claims hminted _
    exact hminted
  · intro pool id req _ ih _ _ _
    exact ih
  · intro pool id choice call op next response after hpool ih hexec _ _ token
      claims hminted hsession
    rw [mintedTokens, Pool.execCall, mentioned_cons, List.mem_append] at hminted
    rcases hminted with hnew | hold
    · rw [Option.mem_toList] at hnew
      dsimp only [minted] at hnew
      split at hnew
      · next privateKey keyID signed text heq =>
          cases hnew
          cases heq
          have hpresent := present_of_signing hstart rfl honeByOne
            (hbase.trans hpool) hexec
          have hgone' := gone_stays hstart rfl honeByOne hbase hcreated hgone
            hpool
          rw [hsession] at hpresent
          exact (hpresent hgone'.1).elim
      · cases hnew
    · exact ih token claims hold hsession
  · intro pool change after _ ih _ _ _
    exact ih

end Tokens

/-- An eviction cuts a session off, but revokes none of its tokens.  In every
run of calls served one after another, once a verification has deleted a
session, the session stays away, no access token is minted for it, and those
minted before expire at most `AccessTokenLifetime` after the eviction.  The
requests of a verification change `IsRevoked` for no identifier other than that
of a session the call has deleted. -/
theorem evicted_tokens_expire (cfg : AuthServiceConfig) (clock : Time) :
    (∀ before evicted pool id choice call phone otpCandidate deviceID
        sessionID,
      (machine cfg).Reach oneByOne (start clock) before →
      before.calls.lookup id = some call →
      call.req = .verifyOTP phone otpCandidate deviceID →
      before.nextOp id = some (.sessionsDeleteItem sessionID) →
      (machine cfg).step before (.exec id choice) = some evicted →
      faultless (.exec id choice) →
      (machine cfg).Reach oneByOne evicted pool →
      sessionID ∉ pool.store.sessions ∧
        ∀ token claims, (token, claims) ∈ mintedTokens pool →
          claims.sessionID = sessionID →
          (token, claims) ∈ mintedTokens before ∧
            ∃ expiry, claims.expiresAt = some expiry ∧
              expiry ≤ unix (before.store.clock + accessTokenLifetime)) ∧
    ∀ before after id choice call phone otpCandidate deviceID jti,
      (machine cfg).Reach oneByOne (start clock) before →
      before.calls.lookup id = some call →
      call.req = .verifyOTP phone otpCandidate deviceID →
      (machine cfg).step before (.exec id choice) = some after →
      (∀ entry ∈ call.history, deletion jti entry = false) →
      revokedIn after.store jti = revokedIn before.store jti := by
  constructor
  · intro before evicted pool id choice call phone otpCandidate deviceID
      sessionID hbefore hcall hreq hnext hstep hfaultless hreach
    obtain ⟨op, response, after, next, hexec, hperform, rfl⟩ :=
      exec_of_step hbefore hcall hstep
    have hop : op = .sessionsDeleteItem sessionID :=
      Option.some.inj (hexec.nextOp.symm.trans hnext)
    subst hop
    have hevicted : (machine cfg).Reach oneByOne (start clock)
        (before.execCall id call _ next response after) := by
      have hallowed : oneByOne before (.exec id choice : Label) := trivial
      exact hbefore.step hallowed hstep
    have hgone : after.sessions.lookup sessionID = none :=
      deleted_of_faultless hfaultless hperform
    have hcreated : sessionID ∈ mentioned createdSession
        (before.execCall id call _ next response after).log := by
      rw [Pool.execCall, mentioned_cons, List.mem_append]
      exact Or.inr
        (created_of_evicting hbefore hcall (hreq ▸ hexec.guarded))
    have hstart : (machine cfg).Reach oneByOne (start clock) (start clock) :=
      .refl
    have hstays := gone_stays hstart rfl (fun _ _ hallowed => hallowed)
      hevicted hcreated hgone hreach
    refine ⟨AList.lookup_eq_none.mp hstays.1, ?_⟩
    intro token claims hminted hsession
    have hearlier : (token, claims) ∈ mintedTokens before := by
      have hmem := minted_before hevicted hcreated hgone hreach token claims
        hminted hsession
      rw [mintedTokens, Pool.execCall, mentioned_cons, List.mem_append] at hmem
      rcases hmem with hnew | hold
      · cases hnew
      · exact hold
    obtain ⟨now, hnow, hexpiry⟩ := expiry_of_minted hbefore hearlier
    refine ⟨hearlier, _, hexpiry, ?_⟩
    unfold unix
    exact Int.ediv_le_ediv (by decide) (by gcongr)
  · intro before after id choice call phone otpCandidate deviceID jti hbefore
      hcall hreq hstep hother
    obtain ⟨op, response, store, next, hexec, -, rfl⟩ :=
      exec_of_step hbefore hcall hstep
    apply revokedIn_of_verify hexec hreq
    intro hmem
    have hdeleted := hother _ hmem
    simp [deletion] at hdeleted

section Schedules

/-- A registered phone logs in again from the same device, and is about to
delete its first session. -/
def aboutToEvict : Pool :=
  (machine (deployment [firstClaims])).runTo orderly (start evening)
    (registration ++
      [.env (.replicateUser user), .env (.replicateSession session)] ++
      serve 2 (.requestOTP phone "203.0.113.7") (issuing 654321) ++
      serve 3 (.verifyOTP phone "654321" "device-a")
        (accepting ++ finding user [session]))

def hasEvicted : Pool :=
  ((machine (deployment [firstClaims])).step aboutToEvict (.exec 3 .ok)).getD
    aboutToEvict

/-- The login has succeeded. -/
def loggedInAgain : Pool :=
  (machine (deployment [firstClaims])).runTo orderly hasEvicted
    (resume 3 (.ok :: loggingIn sessionB refreshB ++
      minting "88888888-8888-4888-8888-888888888888"))

end Schedules

/-- The access token of the first session expires an hour after the eviction at
the latest. -/
theorem loggedInAgain_tokens_expire :
    session ∉ loggedInAgain.store.sessions ∧
      (tokenText firstClaims, firstClaims) ∈ mintedTokens loggedInAgain ∧
      ∃ expiry, firstClaims.expiresAt = some expiry ∧
        expiry ≤ unix (aboutToEvict.store.clock + accessTokenLifetime) := by
  have hrun : (∃ call ∈ aboutToEvict.calls.lookup 3,
      call.req = .verifyOTP phone "654321" "device-a") ∧
      aboutToEvict.nextOp 3 = some (.sessionsDeleteItem session) ∧
      ((machine (deployment [firstClaims])).step aboutToEvict
        (.exec 3 .ok)).isSome = true ∧
      (tokenText firstClaims, firstClaims) ∈ mintedTokens loggedInAgain := by
    decide +kernel
  obtain ⟨⟨call, hcall, hreq⟩, hnext, hsome, hminted⟩ := hrun
  have hstep : (machine (deployment [firstClaims])).step aboutToEvict
      (.exec 3 .ok) = some hasEvicted :=
    (Option.getD_of_ne_none (Option.ne_none_iff_isSome.mpr hsome) _).symm
  have hbefore : (machine (deployment [firstClaims])).Reach orderly
      (start evening) aboutToEvict := Machine.reach_runTo _
  have hreach : (machine (deployment [firstClaims])).Reach orderly
      hasEvicted loggedInAgain := Machine.reach_runTo _
  obtain ⟨hgone, htokens⟩ :=
    (evicted_tokens_expire (deployment [firstClaims]) evening).1 aboutToEvict
      hasEvicted loggedInAgain 3 .ok call Deployment.phone "654321" "device-a"
      session (hbefore.mono fun _ _ hallowed => hallowed.1) hcall hreq hnext
      hstep trivial (hreach.mono fun _ _ hallowed => hallowed.1)
  exact ⟨hgone, hminted, (htokens _ _ hminted rfl).2⟩

/-- The claim does not hold: the login has evicted the first session, and the
access token of that session still validates and is not revoked. -/
theorem evicted_token_not_revoked :
    (∃ call ∈ loggedInAgain.calls.lookup 3,
      verifiedSession call = some sessionB) ∧
    (∃ event ∈ loggedInAgain.log, event.call = 3 ∧
      deletion session event.entry = true) ∧
    (tokenText firstClaims, firstClaims) ∈ mintedTokens loggedInAgain ∧
    firstClaims.sessionID = session ∧
    (validateAccessToken (deployment [firstClaims])
      loggedInAgain.store.clock (tokenText firstClaims)).toOption =
        some firstClaims ∧
    revokedIn loggedInAgain.store firstClaims.id = false ∧
    revokedIn loggedInAgain.store session = true := by
  decide +kernel

end MessagingPlatform.Eviction
