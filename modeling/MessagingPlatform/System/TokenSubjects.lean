import MessagingPlatform.System.Deployment
import MessagingPlatform.System.SessionOrigins

/-!
# The user that the tokens of a session name

A refresh takes the subject of the new token from the presented token and the
session from the table, and compares the two nowhere.  If the tokens that
validate are tokens that were minted, the subject is passed on unchanged from
the verification that created the session.
-/

namespace MessagingPlatform.TokenSubjects

open Program
open Interleaving
open Instants
open Primitives
open Tables
open Operations
open Effects
open Freshness
open StoreRules
open SessionRules
open VerifyRules
open Service
open ServiceRules
open MessagingPlatform.Runs
open Commits
open SessionOrigins
open Deployment

section Definitions

/-- The access token that a request minted, with its claims. -/
def minted : Entry → Option (String × Claims)
  | ⟨.signedString _ _ claims, .ok token⟩ => some (token, claims)
  | _ => none

/-- The access tokens ever minted, newest first. -/
def mintedTokens (pool : Pool) : List (String × Claims) :=
  mentioned minted pool.log

/-- The sessions ever created, each with its user, newest first. -/
def createdSessionUsers (pool : Pool) : List (String × String) :=
  origins (fun item => item.userID) pool

/-- The access token of a request and the claims it validates to. -/
def validated (cfg : AuthServiceConfig) (now : Time) :
    Request → Option (String × Claims)
  | .refreshTokens accessToken _ _ =>
      (validateIgnoreExpiry cfg now accessToken).toOption.map (accessToken, ·)
  | .logout accessToken =>
      (validateAccessToken cfg now accessToken).toOption.map (accessToken, ·)
  | _ => none

/-- A call whose access token validates presents a token that was minted with
the claims it validates to. -/
def PresentsMinted (cfg : AuthServiceConfig) (pool : Pool) (id : ℕ) (_ : Op) :
    Prop :=
  ∀ call ∈ pool.calls.lookup id, call.history.isEmpty = true →
    ∀ presented ∈ validated cfg pool.store.clock call.req,
      presented ∈ mintedTokens pool

instance (cfg : AuthServiceConfig) (pool : Pool) (id : ℕ) (op : Op) :
    Decidable (PresentsMinted cfg pool id op) :=
  inferInstanceAs (Decidable (∀ _ ∈ pool.calls.lookup id, _ → ∀ _ ∈ _, _))

end Definitions

variable {cfg : AuthServiceConfig} {admissible : Pool → Label → Prop}
variable {clock : Time} {pool : Pool}

section Growth

variable {later : Pool}

theorem mintedTokens_subset
    (hreach : (machine cfg).Reach admissible pool later) :
    mintedTokens pool ⊆ mintedTokens later :=
  (hreach.log_suffix.filterMap _).subset

end Growth

section Binding

/-- What a call presented was minted. -/
def PresentedMinted (cfg : AuthServiceConfig) (pool : Pool) (call : Call) :
    Prop :=
  ∀ now, [⟨.clockNow, now⟩] <:+ call.history →
    ∀ presented, validated cfg now call.req = some presented →
      presented ∈ mintedTokens pool

/-- The subjects of tokens are the users that their sessions were created
for. -/
structure NamesCreator (cfg : AuthServiceConfig) (pool : Pool) : Prop where
  presented : ∀ id call, pool.calls.lookup id = some call →
    PresentedMinted cfg pool call
  tokens : ∀ token claims, (token, claims) ∈ mintedTokens pool →
    (claims.sessionID, claims.subject) ∈ createdSessionUsers pool

variable {id : ℕ} {call : Call} {op : Op} {response : op.Res} {after : Store}
variable {next : op.Res → Prog Op Op.Res Outcome}

theorem presented_of_exec (hnames : NamesCreator cfg pool)
    (hexec : Exec cfg pool id call op response after)
    (hpresents : PresentsMinted cfg pool id op)
    (hlater : (machine cfg).Reach admissible pool
      (pool.execCall id call op next response after)) {other : ℕ}
    {later : Call}
    (hlookup : (pool.execCall id call op next response after).calls.lookup
      other = some later) :
    PresentedMinted cfg (pool.execCall id call op next response after)
      later := by
  intro now hfirst presented hvalidated
  apply mintedTokens_subset hlater
  rcases lookup_execCall hlookup with ⟨-, hreq, hhistory⟩ | ⟨-, hold⟩
  · rw [hreq] at hvalidated
    rw [hhistory] at hfirst
    rcases List.suffix_cons_iff.mp hfirst with hnew | hearlier
    · -- The call has just read the clock, as its first request.
      obtain ⟨hentry, hempty⟩ := List.cons.inj hnew
      cases hentry
      have hclock : now = pool.store.clock := hexec.answers
      refine hpresents call hexec.lookup ?_ presented (hclock ▸ hvalidated)
      rw [← hempty]
      rfl
    · exact hnames.presented id call hexec.lookup now hearlier presented
        hvalidated
  · exact hnames.presented other later hold now hfirst presented hvalidated

/-- The subject of a token that is about to be signed is the user that its
session was created for. -/
theorem subject_of_signing {privateKey keyID : String} {claims : Claims}
    (hreach : (machine cfg).Reach admissible (start clock) pool)
    (hnames : NamesCreator cfg pool)
    (hcall : pool.calls.lookup id = some call)
    (hguard : guard cfg call.req call.history
      (.signedString privateKey keyID claims)) :
    (claims.sessionID, claims.subject) ∈ createdSessionUsers pool := by
  cases hreq : call.req with
  | requestOTP | logout => exact (hreq ▸ hguard).elim
  | verifyOTP phone otpCandidate deviceID =>
      rw [hreq] at hguard
      obtain ⟨items, item, base, hput, huser, key, kid, now, -, hhistory⟩ :=
        hguard
      have hentry : (⟨.transactWriteItems items, .ok ()⟩ : Entry) ∈
          call.history := by simp [hhistory]
      obtain ⟨event, hevent, -, hperformed⟩ := hreach.event_of_mem hcall hentry
      refine mem_mentioned.mpr ⟨event, hevent, ?_⟩
      simp [hperformed, createdWith, hput, huser]
  | refreshTokens accessToken refreshToken deviceID =>
      rw [hreq] at hguard
      obtain ⟨look, newRefresh, now, hcurrent, key, kid, signedAt, hclaims,
        hhistory⟩ := hguard
      have hpresented := hnames.presented id call hcall look.validatedAt
        (by
          rw [hhistory]
          exact List.suffix_append [_, _, _, _, _, _, _, _] _)
        (accessToken, look.claims)
        (by simp [hreq, validated, hcurrent.validated, Except.toOption])
      have hcreated := hnames.tokens _ _ hpresented
      rw [hclaims]
      exact hcreated

theorem tokens_of_exec
    (hreach : (machine cfg).Reach admissible (start clock) pool)
    (hnames : NamesCreator cfg pool)
    (hexec : Exec cfg pool id call op response after)
    (hlater : (machine cfg).Reach admissible pool
      (pool.execCall id call op next response after)) {token : String}
    {claims : Claims}
    (hminted : (token, claims) ∈
      mintedTokens (pool.execCall id call op next response after)) :
    (claims.sessionID, claims.subject) ∈
      createdSessionUsers (pool.execCall id call op next response after) := by
  apply origins_subset hlater
  rw [mintedTokens, Pool.execCall, mentioned_cons, List.mem_append] at hminted
  rcases hminted with hnew | hold
  · obtain ⟨privateKey, keyID, hsigned⟩ : ∃ privateKey keyID,
        op = .signedString privateKey keyID claims := by
      rw [Option.mem_toList] at hnew
      dsimp only [minted] at hnew
      split at hnew
      · next privateKey keyID signed text heq =>
          cases hnew
          exact ⟨privateKey, keyID, congrArg Sigma.fst heq⟩
      · cases hnew
    exact subject_of_signing hreach hnames hexec.lookup
      (hsigned ▸ hexec.guarded)
  · exact hnames.tokens token claims hold

/-- Tokens name the user that their session was created for. -/
theorem namesCreator
    (hadmissible : ∀ current label, admissible current label →
      whenCalling (PresentsMinted cfg) current label)
    (hreach : (machine cfg).Reach admissible (start clock) pool) :
    NamesCreator cfg pool := by
  refine invariant ?_ ?_ ?_ ?_ hreach
  · constructor
    · intro id call hcall
      simp [start, Pool.initial] at hcall
    · intro token claims hminted
      cases hminted
  · intro pool id req _ ih _ _ _
    refine ⟨?_, ih.tokens⟩
    intro other call hcall now hfirst
    rcases lookup_startCall hcall with ⟨-, hnil⟩ | hold
    · rw [hnil] at hfirst
      cases List.suffix_nil.mp hfirst
    · exact ih.presented other call hold now hfirst
  · intro pool id choice call op next response after hpool ih hexec hallowed
      hlater
    have hpresents : PresentsMinted cfg pool id op :=
      hadmissible _ _ hallowed op hexec.nextOp
    exact
      { presented := fun other later hcall =>
          presented_of_exec ih hexec hpresents hlater hcall
        tokens := fun token claims hminted =>
          tokens_of_exec hpool ih hexec hlater hminted }
  · intro pool change after _ ih _ _ _
    exact ⟨ih.presented, ih.tokens⟩

end Binding

/-- A session's tokens name one user for ever: if tokens that validate were
minted, every access token minted for a session, and its item for as long as it
names a user, name the one user that the session was created for. -/
theorem session_names_one_user (cfg : AuthServiceConfig) (clock : Time)
    (pool : Pool)
    (hreach : (machine cfg).Reach (whenCalling (PresentsMinted cfg))
      (start clock) pool) :
    (∀ sessionID userID other,
      (sessionID, userID) ∈ createdSessionUsers pool →
      (sessionID, other) ∈ createdSessionUsers pool → userID = other) ∧
    (∀ token claims, (token, claims) ∈ mintedTokens pool →
      (claims.sessionID, claims.subject) ∈ createdSessionUsers pool) ∧
    ∀ sessionID item userID,
      pool.store.sessions.lookup sessionID = some item →
      item.userID = some userID →
        (sessionID, userID) ∈ createdSessionUsers pool := by
  have hnames := namesCreator (fun _ _ => id) hreach
  refine ⟨?_, hnames.tokens, ?_⟩
  · intro sessionID userID other huser hother
    exact origin_unique hreach huser hother
  · intro sessionID item userID hitem huser
    exact origin_of_item (fun _ _ => rfl) hreach hitem huser

/-- A registered phone that has refreshed its tokens. -/
def refreshedOnce : Pool :=
  (machine (deployment [firstClaims])).runTo
    (whenCalling (PresentsMinted (deployment [firstClaims]))) (start evening)
    (registration ++
      serve 2 (.refreshTokens (tokenText firstClaims) refreshA "device-a")
        (rotating refreshB ++
          .ok :: minting "44444444-4444-4444-8444-444444444444"))

/-- Both its tokens name the user of the registration. -/
theorem refreshedOnce_names_user :
    createdSessionUsers refreshedOnce = [(session, user)] ∧
      (mintedTokens refreshedOnce).length = 2 ∧
      ∀ minted ∈ mintedTokens refreshedOnce,
        (minted.2.sessionID, minted.2.subject) = (session, user) := by
  have hrun : createdSessionUsers refreshedOnce = [(session, user)] ∧
      (mintedTokens refreshedOnce).length = 2 := by decide +kernel
  refine ⟨hrun.1, hrun.2, ?_⟩
  intro minted hminted
  have hcreated := (session_names_one_user (deployment [firstClaims]) evening
    refreshedOnce (Machine.reach_runTo _)).2.1 minted.1 minted.2 hminted
  rw [hrun.1] at hcreated
  exact List.mem_singleton.mp hcreated

end MessagingPlatform.TokenSubjects
