import MessagingPlatform.Adapter.AllowedRequests
import MessagingPlatform.System.Eviction
import MessagingPlatform.System.MintedTokens

/-!
# Revocations outlive tokens

The revocation store on its own: anybody may revoke any token identifier and ask
for any, at any time, in any interleaving.  A revocation keeps its key for an
hour, and revoking again only moves the end of that hour.  An access token is
accepted for less than an hour after its mint.
-/

namespace MessagingPlatform.Revocations

open Program
open Interleaving
open OneStep
open Instants
open Errors
open Primitives
open MessagingPlatform.Parser
open Signer
open Tables
open Operations
open Effects
open Stores
open StoreSteps
open AllowedRequests
open Validation
open MintedTokens
open Eviction (revokedIn)
open Deployment (evening)

section Machine

inductive RevocationRequest where
  | revoke (jti : String)
  | isRevoked (jti : String)
  deriving DecidableEq

inductive RevocationOutcome where
  | revoke (outcome : Except GoError Unit)
  | isRevoked (answer : Bool × Option GoError)

def revocationProgram :
    RevocationRequest → Prog Op Op.Res RevocationOutcome
  | .revoke jti => do
      let outcome ← (revoke jti).run
      return .revoke outcome
  | .isRevoked jti => do
      let answer ← isRevoked jti
      return .isRevoked answer

/-- The revocation store and its callers. -/
def revocations (cfg : AuthServiceConfig) :
    Machine Store Op Op.Res Choice Operations.Env RevocationRequest
      RevocationOutcome where
  program := revocationProgram
  perform := perform cfg
  advance := advance

abbrev RevocationPool :=
  Interleaving.Pool Store Op Op.Res RevocationRequest RevocationOutcome

abbrev RevocationLabel :=
  Interleaving.Label Choice Operations.Env RevocationRequest

end Machine

/-- The requests of the revocation store. -/
def revoking : Op → Prop
  | .redisSet key ttlSeconds =>
      (∃ jti, key = .revokedJTI jti) ∧ ttlSeconds = revokedJTITTL
  | .redisExists _ => True
  | _ => False

/-- A revocation that has reached Redis. -/
def revokes (jti : String) : Entry → Bool
  | ⟨.redisSet key _, .ok ()⟩ => key == .revokedJTI jti
  | _ => false

/-- The key of the revocation lasts for an hour from `since` on. -/
def KeptFrom (store : Store) (jti : String) (since : Time) : Prop :=
  since ≤ store.clock ∧ ∃ value deadline,
    store.redis (.revokedJTI jti) = some ⟨value, some deadline⟩ ∧
      since + revokedJTITTL * second ≤ deadline

variable {cfg : AuthServiceConfig} {store before after : Store} {jti : String}

theorem sat_revocationProgram (req : RevocationRequest) :
    Sat (fun _ op => revoking op) (fun _ _ => True) (revocationProgram req)
      [] := by
  cases req with
  | revoke jti =>
      rw [revocationProgram, sat_bind]
      have honly : Only revoking (revoke jti) :=
        only_revoke ⟨⟨jti, rfl⟩, rfl⟩
      exact (honly []).mono fun _ _ _ => trivial
  | isRevoked jti =>
      refine ⟨trivial, ?_⟩
      rintro (err | found)
      · trivial
      · trivial

section Steps

/-- A request of the revocation store starts the hour of a key again, or leaves
it alone. -/
theorem KeptFrom.exec {op : Op} {response : op.Res} {since : Time}
    (hop : revoking op) (heffect : Effect before ⟨op, response⟩ after)
    (hkept : KeptFrom before jti since) : KeptFrom after jti since := by
  obtain ⟨hsince, value, deadline, hentry, hlasts⟩ := hkept
  have hchange := heffect.keyChange (.revokedJTI jti)
  refine ⟨hsince.trans heffect.clock.ge, ?_⟩
  generalize hredis : after.redis (.revokedJTI jti) = found at hchange
  cases hchange with
  | kept hkeeps => exact ⟨value, deadline, hentry, hlasts⟩
  | counted windowSeconds => exact hop.elim
  | set ttlSeconds =>
      obtain ⟨-, rfl⟩ := hop
      exact ⟨1, _, rfl, add_le_add_left hsince _⟩

/-- A revocation starts the hour of its key. -/
theorem KeptFrom.revoked {op : Op} {response : op.Res} (hop : revoking op)
    (heffect : Effect before ⟨op, response⟩ after)
    (hrevokes : revokes jti ⟨op, response⟩ = true) :
    KeptFrom after jti before.clock := by
  unfold revokes at hrevokes
  split at hrevokes
  · next key ttlSeconds heq =>
      cases heq
      obtain rfl := beq_iff_eq.mp hrevokes
      obtain ⟨-, rfl⟩ := hop
      cases heffect with
      | unchanged hkeeps => cases hkeeps
      | keySet _ _ =>
          exact ⟨le_refl _, 1, _, Store.redis_setKey _ _ _, le_refl _⟩
  · cases hrevokes

end Steps

/-- A revocation is kept for an hour, whatever is revoked after it. -/
theorem keptFrom_of_revoked
    {admissible : RevocationPool → RevocationLabel → Prop}
    {pool : RevocationPool}
    (hreach : (revocations cfg).Reach admissible (.initial store) pool) :
    ∀ event ∈ pool.log, revokes jti event.entry = true →
      KeptFrom pool.store jti event.before.clock := by
  refine Machine.Reach.invariant (I := fun pool => ∀ event ∈ pool.log,
    revokes jti event.entry = true →
      KeptFrom pool.store jti event.before.clock) ?_ ?_ ?_ ?_ hreach
  · intro event hevent
    cases hevent
  · intro pool id req _ ih _ _
    exact ih
  · intro pool id choice call op next response after hpool ih hcall hrest
      hperform _ event hevent hrevokes
    have hop : revoking op :=
      hpool.guard_next sat_revocationProgram hcall hrest
    have heffect := effect_of_perform hperform
    rcases List.mem_cons.mp hevent with rfl | hearlier
    · exact KeptFrom.revoked hop heffect hrevokes
    · exact (ih event hearlier hrevokes).exec hop heffect
  · intro pool change after _ ih hadvance _ event hevent hrevokes
    obtain ⟨hsince, value, deadline, hentry, hlasts⟩ := ih event hevent hrevokes
    have hframed := framed_of_advance hadvance
    exact ⟨hsince.trans hframed.clock, value, deadline,
      by rw [hframed.redis]; exact hentry, hlasts⟩

section Answers

/-- `IsRevoked` answers what Redis holds. -/
theorem certain_isRevoked :
    Certain (steps cfg) (isRevoked jti) store (revokedIn store jti, none)
      store := by
  intro answer reached
  unfold isRevoked
  rw [ends_bind]
  constructor
  · rintro ⟨response, middle, hexists, hrest⟩
    obtain ⟨choice, hunfaulted, hperform⟩ := ends_perform.mp hexists
    cases effect_of_unfaulted hunfaulted hperform
    exact ends_pure.mp hrest
  · rintro ⟨rfl, rfl⟩
    exact ⟨_, _, ends_perform.mpr ⟨.ok, trivial, rfl⟩, ends_pure.mpr ⟨rfl, rfl⟩⟩

/-- A key that is kept is found until its hour is over. -/
theorem revokedIn_of_keptFrom {since : Time} (hkept : KeptFrom store jti since)
    (hbefore : store.clock < since + revokedJTITTL * second) :
    revokedIn store jti = true := by
  obtain ⟨-, value, deadline, hentry, hlasts⟩ := hkept
  have hlive : store.liveEntry (.revokedJTI jti) =
      some ⟨value, some deadline⟩ :=
    Option.filter_eq_some_iff.mpr
      ⟨hentry, decide_eq_true (lt_of_lt_of_le hbefore hlasts)⟩
  rw [revokedIn, hlive]
  rfl

end Answers

/-- A token that is accepted has been minted less than an hour ago. -/
theorem accepted_within_hour {lib : TokenLibrary} {signer : TokenSigner}
    {userID sessionID : String} {minted : MintResult} {claims : Claims}
    {now : Time} (hlib : cfg.parseWithClaims = parseWithClaims lib)
    (hsigner : cfg.signedString = signedString signer)
    (hmint : Ends (steps cfg) (mintAccessToken cfg userID sessionID).run before
      (.ok minted) after)
    (hround : ReadsBack lib signer cfg.signingKey cfg.signingKeyID
      (signedClaims cfg accessTokenLifetime userID sessionID before minted))
    (haccepted : validateAccessToken cfg now minted.token = .ok claims) :
    now < before.clock + revokedJTITTL * second := by
  have hunexpired : now < unix minted.expiresAt * second :=
    (validations_of_minted hsigner hlib hmint hround
      haccepted).2.resolve_left Bool.false_ne_true
  have hlifetime : accessTokenLifetime = revokedJTITTL * second := by decide
  calc now < unix minted.expiresAt * second := hunexpired
    _ ≤ minted.expiresAt := Int.ediv_mul_le _ (by decide)
    _ = before.clock + revokedJTITTL * second := by
        rw [(minted_eq hsigner hmint).2, hlifetime]

/-- Whatever is revoked, asked for and happens to the clock: from the first
revocation of a token after its mint on, `IsRevoked` answers `true` as long as
the token is accepted, and no failure of Redis makes it answer `false`. -/
theorem revocation_outlives_token (lib : TokenLibrary) (signer : TokenSigner)
    (cfg : AuthServiceConfig)
    (hlib : cfg.parseWithClaims = parseWithClaims lib)
    (hsigner : cfg.signedString = signedString signer)
    (userID sessionID : String) (before after : Store) (minted : MintResult)
    (hmint : Ends (steps cfg) (mintAccessToken cfg userID sessionID).run before
      (.ok minted) after)
    (hround : ReadsBack lib signer cfg.signingKey cfg.signingKeyID
      (signedClaims cfg accessTokenLifetime userID sessionID before minted))
    (store : Store) (pool : RevocationPool)
    (hreach : (revocations cfg).Reach (fun _ _ => True) (.initial store) pool)
    (event : Interleaving.Event Store Op Op.Res) (hevent : event ∈ pool.log)
    (hrevokes : revokes minted.jti event.entry = true)
    (hlater : before.clock ≤ event.before.clock) (claims : Claims)
    (haccepted : validateAccessToken cfg pool.store.clock minted.token =
      .ok claims) :
    Certain (steps cfg) (isRevoked minted.jti) pool.store (true, none)
        pool.store ∧
      ∀ permits answer reached, Ends (performs cfg permits)
        (isRevoked minted.jti) pool.store answer reached →
          answer.1 = true := by
  have hrevoked : revokedIn pool.store minted.jti = true := by
    refine revokedIn_of_keptFrom (keptFrom_of_revoked hreach event hevent
      hrevokes) ?_
    calc pool.store.clock < before.clock + revokedJTITTL * second :=
          accepted_within_hour hlib hsigner hmint hround haccepted
      _ ≤ event.before.clock + revokedJTITTL * second :=
          add_le_add_left hlater _
  constructor
  · rw [← hrevoked]
    exact certain_isRevoked
  · intro permits answer reached hends
    unfold isRevoked at hends
    rw [ends_bind] at hends
    obtain ⟨response, middle, hexists, hrest⟩ := hends
    obtain ⟨choice, -, hperform⟩ := ends_perform.mp hexists
    cases response with
    | error err =>
        obtain ⟨rfl, -⟩ := ends_pure.mp hrest
        rfl
    | ok found =>
        obtain ⟨rfl, -⟩ := ends_pure.mp hrest
        exact (answers_of_perform hperform).trans hrevoked

section Runs

/-- The token of the evening is revoked ten seconds after its mint, another one
a minute later, and it is revoked again; then an hour has almost passed. -/
def revokedTwice : RevocationPool :=
  (revocations minter).runTo (fun _ _ => True) (.initial (Store.empty evening))
    [.env (.tick (evening + 10 * second)),
      .start 0 (.revoke "9f0c1d9e-52a4-4a38-9a43-2f3a9f4f7c11"), .exec 0 .ok,
      .env (.tick (evening + 70 * second)),
      .start 1 (.revoke "5d0e4b7c-8a0e-4c55-8b5e-0b7d1c2f6e22"), .exec 1 .ok,
      .start 2 (.revoke "9f0c1d9e-52a4-4a38-9a43-2f3a9f4f7c11"), .exec 2 .ok,
      .env (.tick (1700003599 * second))]

theorem revokedTwice_log :
    (∃ event ∈ revokedTwice.log,
      revokes (mintedAt evening).jti event.entry = true ∧
        evening ≤ event.before.clock) ∧
      revokedTwice.store.clock = 1700003599 * second := by
  decide +kernel

/-- One second before its expiry the token is accepted, and revoked. -/
theorem revokedTwice_revoked :
    (∃ claims, validateAccessToken minter revokedTwice.store.clock
      (mintedAt evening).token = .ok claims) ∧
    Certain (steps minter) (isRevoked (mintedAt evening).jti)
      revokedTwice.store (true, none) revokedTwice.store := by
  obtain ⟨⟨event, hevent, hrevokes, hlater⟩, hclock⟩ := revokedTwice_log
  obtain ⟨after, hmint⟩ := ends_mintedAt evening
  have hclaims : signedClaims minter accessTokenLifetime "user_123" "sess_456"
      (Store.empty evening) (mintedAt evening) = eveningClaims := by decide
  have haccepted : validateAccessToken minter revokedTwice.store.clock
      (mintedAt evening).token = .ok (signedClaims minter accessTokenLifetime
        "user_123" "sess_456" (Store.empty evening) (mintedAt evening)) := by
    refine (parseToken_eq_ok_iff_valid rfl (by decide) (by decide) false).mpr
      ⟨valid_minted rfl servesPair_minter (by decide) hmint
        (hclaims ▸ readsBack_evening) (hclaims ▸ verifies_evening), .inr ?_⟩
    rw [hclock]
    exact ⟨_, rfl, by decide⟩
  exact ⟨⟨_, haccepted⟩, (revocation_outlives_token eveningLibrary
    eveningSigner minter rfl rfl "user_123" "sess_456" (Store.empty evening)
    after (mintedAt evening) hmint (hclaims ▸ readsBack_evening) _ revokedTwice
    (Machine.reach_runTo _) event hevent hrevokes hlater _ haccepted).1⟩

end Runs

end MessagingPlatform.Revocations
