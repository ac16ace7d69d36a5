import MessagingPlatform.System.AbsoluteLifetime

/-!
# What a whole refresh does

A refresh that runs alone, with a valid access token for a session of its
device that has not expired, and with a store that does not fail, has three
outcomes, decided by the two hashes that the session holds.
-/

namespace MessagingPlatform.RefreshCalls

open Program
open Interleaving
open Instants
open Errors
open Records
open Primitives
open Tables
open Operations
open Effects
open MessagingPlatform.Sequential
open Stores
open StoreRules
open SessionRules
open Service
open ServiceRules
open MessagingPlatform.Runs
open WholeCalls
open ReportedEnd
open AbsoluteLifetime

section Definitions

/-- A whole refresh on a session, without a failing store call: the access
token is valid for the session, the device is that of the session, and the
session has not expired when the call checks it. -/
structure OnSession (cfg : AuthServiceConfig) (first ended : Pool) (id : ℕ)
    (call : Call) (refreshToken sessionID : String) (item : SessionItem) :
    Prop where
  served : Served cfg withoutFaults first ended id call
  found : first.store.sessions.lookup sessionID = some item
  request : ∃ accessToken, call.req =
    .refreshTokens accessToken refreshToken (item.deviceID.getD "")
  named : namedSession cfg call = some sessionID
  unexpired : ∃ expiry, parse item.expiresAt = some expiry ∧
    ∀ checked, checkedAt call = some checked → checked ≤ expiry

/-- The same keys, codes and users. -/
structure SameButSessions (before after : Store) : Prop where
  redis : after.redis = before.redis
  otpRequests : after.otpRequests = before.otpRequests
  users : after.users = before.users

/-- The session after a rotation at `now` that issues `newRefresh`. -/
def rotatedItem (cfg : AuthServiceConfig) (item : SessionItem)
    (newRefresh : String) (now : Time) : SessionItem :=
  { item with
    refreshTokenHash := hashRefreshToken cfg newRefresh
    prevTokenHash := item.refreshTokenHash
    tokenGeneration := item.tokenGeneration + 1
    expiresAt := format (now + refreshTokenLifetime)
    ttl := unix (now + refreshTokenLifetime) }

/-- The outcomes of a whole refresh, with what it has left in the tables. -/
inductive RefreshOutcome (cfg : AuthServiceConfig) (before after : Store)
    (call : Call) (refreshToken sessionID : String) (item : SessionItem) : Prop
  | rotated (result : RefreshResult) (now : Time)
      (hcurrent : validateRefreshHash cfg refreshToken item.refreshTokenHash =
        true)
      (hreturned : call.rest = .pure (.refreshTokens (.ok result)))
      (hsessions : after.sessions = before.sessions.insert sessionID
        (rotatedItem cfg item result.refreshToken now))
      (hothers : SameButSessions before after)
  | reused
      (hcurrent : validateRefreshHash cfg refreshToken item.refreshTokenHash =
        false)
      (hprevious : validateRefreshHash cfg refreshToken item.prevTokenHash =
        true)
      (hreturned : call.rest =
        .pure (.refreshTokens (.error (.sentinel .errRefreshTokenReuse))))
      (hsessions : after.sessions = before.sessions.erase sessionID)
  | unknown
      (hcurrent : validateRefreshHash cfg refreshToken item.refreshTokenHash =
        false)
      (hprevious : item.prevTokenHash ≠ "" →
        validateRefreshHash cfg refreshToken item.prevTokenHash = false)
      (hreturned : call.rest =
        .pure (.refreshTokens (.error (.sentinel .errInvalidRefreshToken))))
      (hsame : SameTables before after)

/-- A request of a refresh or a logout that failed. -/
def failed : Entry → Bool
  | ⟨.randToken, .error _⟩ => true
  | ⟨.sessionsGetItem _, .error _⟩ => true
  | ⟨.sessionsUpdateItem _ _, .error _⟩ => true
  | ⟨.sessionsDeleteItem _, .error _⟩ => true
  | ⟨.redisSet _ _, .error _⟩ => true
  | ⟨.signingKey, .error _⟩ => true
  | ⟨.signedString _ _ _, .error _⟩ => true
  | _ => false

end Definitions

variable {cfg : AuthServiceConfig} {clock : Time}

section Unfailed

variable {first reached : Store} {history newer older : History}

theorem unfailed_of_effect {op : Op} {choice : Choice} {before after : Store}
    {response : op.Res}
    (heffect : effect cfg op choice before = some (response, after)) :
    failed ⟨op, response⟩ = false := by
  unfold effect at heffect
  split at heffect
  all_goals first
    | cases heffect; rfl
    | cases heffect
    | skip
  all_goals split at heffect
  all_goals first
    | cases heffect; rfl
    | cases heffect

/-- No request of a call fails if the store does not. -/
theorem unfailed_of_solo
    (hsolo : Solo (machine cfg) Choice.unfaulted first history reached)
    {entry : Entry} (hentry : entry ∈ history) : failed entry = false := by
  obtain ⟨before, choice, after, hunfaulted, hperform⟩ :=
    hsolo.performed_of_mem hentry
  exact unfailed_of_effect (effect_of_unfaulted hunfaulted hperform)

/-- What a call reads of a session before it writes is what was there when it
arrived. -/
theorem response_of_read {sessionID : String}
    {response : Op.Res (.sessionsGetItem sessionID)}
    (hsolo : Solo (machine cfg) Choice.unfaulted first
      (newer ++ ⟨.sessionsGetItem sessionID, response⟩ :: older) reached)
    (hkeeps : ∀ entry ∈ older, keepsTables entry = true) :
    response = .ok (first.sessions.lookup sessionID) := by
  obtain ⟨middle, hread, -⟩ := hsolo.split
  obtain ⟨before, choice, after, hbefore, hunfaulted, hperform, -⟩ :=
    hread.last
  cases effect_of_unfaulted hunfaulted hperform
  rw [(sameTables_of_solo hbefore hkeeps).sessions]

/-- An answered read, whatever fails before and after it. -/
theorem lookup_of_read {permits : Choice → Prop} {sessionID : String}
    {found : Option SessionItem}
    (hsolo : Solo (machine cfg) permits first
      (newer ++ ⟨.sessionsGetItem sessionID, .ok found⟩ :: older) reached)
    (hkeeps : ∀ entry ∈ older, keepsTables entry = true) :
    first.sessions.lookup sessionID = found := by
  obtain ⟨middle, hread, -⟩ := hsolo.split
  obtain ⟨before, choice, after, hbefore, -, hperform, -⟩ := hread.last
  have hanswer : found = before.sessions.lookup sessionID :=
    answers_of_perform hperform
  rw [hanswer, (sameTables_of_solo hbefore hkeeps).sessions]

theorem keepsTables_of_isMint {entry : Entry} (hmint : isMint entry.1 = true) :
    keepsTables entry = true := by
  obtain ⟨op, response⟩ := entry
  cases op with
  | clockNow | uuidNewString | signingKey | signedString => rfl
  | _ => cases hmint

/-- The tables after a rotation, whether its mint fails or not. -/
theorem tables_of_rotation {permits : Choice → Prop} {look : Lookup}
    {newRefresh : String} {now : Time} {added : History}
    (hadded : ∀ entry ∈ added, isMint entry.1 = true)
    (hsolo : Solo (machine cfg) permits first
      (added ++ ⟨.sessionsUpdateItem look.claims.sessionID
        (look.rotation cfg newRefresh now), .ok ()⟩ ::
          look.rotatingEntries newRefresh now) reached) :
    first.sessions.lookup look.claims.sessionID = some look.item ∧
      reached.sessions = first.sessions.insert look.claims.sessionID
        (rotatedItem cfg look.item newRefresh now) ∧
      SameButSessions first reached := by
  have hread : first.sessions.lookup look.claims.sessionID =
      some look.item := by
    have hsplit := hsolo
    rw [show ∀ entry : Entry, added ++ entry ::
        look.rotatingEntries newRefresh now =
      (added ++ entry :: [⟨.clockNow, now⟩, ⟨.randToken, .ok newRefresh⟩,
        ⟨.clockNow, look.now⟩]) ++
        ⟨.sessionsGetItem look.claims.sessionID, .ok (some look.item)⟩ ::
          [⟨.clockNow, look.validatedAt⟩] from fun entry => by
        simp [Lookup.rotatingEntries, Lookup.entries]] at hsplit
    exact lookup_of_read hsplit (by simp [keepsTables])
  obtain ⟨middle, hwritten, hminted⟩ := hsolo.split
  obtain ⟨before, choice, after, hbefore, -, -, heffect, hidle⟩ :=
    last_effect hwritten
  have hsame : SameTables first before :=
    sameTables_of_solo hbefore
      (by simp [Lookup.rotatingEntries, Lookup.entries, keepsTables])
  have hafter : SameTables after reached :=
    hidle.trans (sameTables_of_solo hminted fun entry hentry =>
      keepsTables_of_isMint (hadded entry hentry))
  cases heffect with
  | unchanged hkeeps => cases hkeeps
  | sessionUpdated _ _ =>
      refine ⟨hread, ?_, ?_⟩
      · calc
          reached.sessions =
              before.sessions.insert look.claims.sessionID
                (updatedSession (look.rotation cfg newRefresh now)
                  (before.sessions.lookup look.claims.sessionID)) :=
            hafter.sessions
          _ = first.sessions.insert look.claims.sessionID
                (rotatedItem cfg look.item newRefresh now) := by
            rw [hsame.sessions, hread]
            rfl
      · exact
          { redis := hafter.redis.trans hsame.redis
            otpRequests := hafter.otpRequests.trans hsame.otpRequests
            users := hafter.users.trans hsame.users }

end Unfailed

section Outcomes

variable {first ended : Pool} {id : ℕ} {call : Call}
variable {refreshToken sessionID : String} {item : SessionItem}

theorem OnSession.solo
    (hon : OnSession cfg first ended id call refreshToken sessionID item) :
    Solo (machine cfg) Choice.unfaulted first.store call.history
      ended.store :=
  hon.served.solo fun _ _ _ hfaultless => unfaulted_of_faultless hfaultless

/-- What the refresh has read is the session as it was. -/
theorem OnSession.read
    (hon : OnSession cfg first ended id call refreshToken sessionID item)
    {accessToken deviceID : String} {validatedAt : Time} {claims : Claims}
    {response : Op.Res (.sessionsGetItem claims.sessionID)} {newer : History}
    (hreq : call.req = .refreshTokens accessToken refreshToken deviceID)
    (hvalidated : validateIgnoreExpiry cfg validatedAt accessToken =
      .ok claims)
    (hhistory : call.history =
      newer ++ [⟨.sessionsGetItem claims.sessionID, response⟩,
        ⟨.clockNow, validatedAt⟩]) :
    claims.sessionID = sessionID ∧ response = .ok (some item) := by
  have hfirst : [⟨.clockNow, validatedAt⟩] <:+ call.history := by
    rw [hhistory]
    exact (List.suffix_cons _ _).trans (List.suffix_append _ _)
  have hnamed := namedSession_of_validated hreq hvalidated hfirst
  rw [hon.named, Option.some.injEq] at hnamed
  have hsolo := hon.solo
  rw [hhistory] at hsolo
  have hread := response_of_read hsolo (by simp [keepsTables])
  rw [← hnamed, hon.found] at hread
  exact ⟨hnamed.symm, hread⟩

theorem OnSession.lookup
    (hon : OnSession cfg first ended id call refreshToken sessionID item)
    {accessToken deviceID : String} {look : Lookup} (newer : History)
    (hreq : call.req = .refreshTokens accessToken refreshToken deviceID)
    (hvalidated : validateIgnoreExpiry cfg look.validatedAt accessToken =
      .ok look.claims)
    (hhistory : call.history = newer ++ look.entries) :
    look.claims.sessionID = sessionID ∧ look.item = item := by
  have hsplit : call.history = (newer ++ [⟨.clockNow, look.now⟩]) ++
      [⟨.sessionsGetItem look.claims.sessionID, .ok (some look.item)⟩,
        ⟨.clockNow, look.validatedAt⟩] := by
    rw [hhistory]
    simp [Lookup.entries]
  obtain ⟨hsession, hread⟩ := hon.read hreq hvalidated hsplit
  rw [Except.ok.injEq, Option.some.injEq] at hread
  exact ⟨hsession, hread⟩

/-- The tables after a rotation. -/
theorem OnSession.rotated_tables
    (hon : OnSession cfg first ended id call refreshToken sessionID item)
    {look : Lookup} {newRefresh : String} {now : Time} {added : History}
    (hsession : look.claims.sessionID = sessionID) (hitem : look.item = item)
    (hadded : ∀ entry ∈ added, isMint entry.1 = true)
    (hhistory : call.history = added ++ ⟨.sessionsUpdateItem
      look.claims.sessionID (look.rotation cfg newRefresh now), .ok ()⟩ ::
        look.rotatingEntries newRefresh now) :
    ended.store.sessions = first.store.sessions.insert sessionID
        (rotatedItem cfg item newRefresh now) ∧
      SameButSessions first.store ended.store := by
  subst hsession hitem
  have hsolo := hon.solo
  rw [hhistory] at hsolo
  exact (tables_of_rotation hadded hsolo).2

/-- The sessions after a reported reuse. -/
theorem OnSession.reused_sessions
    (hon : OnSession cfg first ended id call refreshToken sessionID item)
    {look : Lookup} {jti : String}
    {revoked : Op.Res (.redisSet (.revokedJTI jti) revokedJTITTL)}
    {deleted : Op.Res (.sessionsDeleteItem sessionID)}
    (hhistory : call.history =
      ⟨.redisSet (.revokedJTI jti) revokedJTITTL, revoked⟩ ::
        ⟨.sessionsDeleteItem sessionID, deleted⟩ :: look.entries) :
    ended.store.sessions = first.store.sessions.erase sessionID := by
  have hsolo := hon.solo
  have hdone : failed ⟨.sessionsDeleteItem sessionID, deleted⟩ = false :=
    unfailed_of_solo hsolo (by simp [hhistory])
  rw [hhistory] at hsolo
  obtain ⟨revoking, -, afterRevoking, hsolo, -, -, hrevoked, hsame⟩ :=
    last_effect hsolo
  obtain ⟨deleting, -, afterDeleting, hsolo, -, -, hdeleted, hkept⟩ :=
    last_effect hsolo
  have hbefore : SameTables first.store deleting :=
    sameTables_of_solo hsolo (by simp [Lookup.entries, keepsTables])
  have hrevoking : afterRevoking.sessions = revoking.sessions := by
    cases hrevoked <;> rfl
  have hdeleting : afterDeleting.sessions =
      deleting.sessions.erase sessionID := by
    cases hdeleted with
    | sessionDeleted => rfl
    | unchanged hkeeps =>
        cases deleted with
        | ok done => cases hkeeps
        | error cause => cases hdone
  calc
    ended.store.sessions = afterDeleting.sessions :=
      hsame.sessions.trans (hrevoking.trans hkept.sessions)
    _ = first.store.sessions.erase sessionID := by
      rw [hdeleting, hbefore.sessions]

/-- A refresh that fails on a session it can use fails because of its token. -/
theorem OnSession.failure
    (hon : OnSession cfg first ended id call refreshToken sessionID item)
    {accessToken : String} {err : GoError}
    (hreq : call.req =
      .refreshTokens accessToken refreshToken (item.deviceID.getD ""))
    (hrest : call.rest = .pure (.refreshTokens (.error err)))
    (hfailed : RefreshFailed cfg accessToken refreshToken
      (item.deviceID.getD "") call.history err) :
    RefreshOutcome cfg first.store ended.store call refreshToken sessionID
      item := by
  have hunfailed : ∀ entry ∈ call.history, failed entry = false :=
    fun entry hentry => unfailed_of_solo hon.solo hentry
  generalize hhistory : call.history = history at hfailed hunfailed
  cases hfailed with
  | unauthorized validatedAt cause hinvalid =>
      have hnamed := hon.named
      simp [namedSession, hhistory, hreq, TokenSubjects.validated, hinvalid,
        Except.toOption] at hnamed
  | unread validatedAt claims response err hvalidated hresponse herr =>
      have hsplit : call.history = [] ++ _ := hhistory
      exact (hresponse item (hon.read hreq hvalidated hsplit).2).elim
  | mismatched validatedAt claims found hvalidated hdevice =>
      have hsplit : call.history = [] ++ _ := hhistory
      have hread := (hon.read hreq hvalidated hsplit).2
      cases hread
      exact (hdevice rfl).elim
  | unparsable validatedAt claims found hvalidated hparse =>
      have hsplit : call.history = [] ++ _ := hhistory
      have hread := (hon.read hreq hvalidated hsplit).2
      cases hread
      obtain ⟨limit, hlimit, -⟩ := hon.unexpired
      rw [hlimit] at hparse
      cases hparse
  | expired look expiry hvalidated hparse hexpired =>
      obtain ⟨-, hitem⟩ := hon.lookup [] hreq hvalidated hhistory
      obtain ⟨limit, hlimit, hchecked⟩ := hon.unexpired
      have hnow := hchecked look.now
        (by simp [checkedAt, hhistory, Lookup.entries])
      rw [hitem, hlimit, Option.some.injEq] at hparse
      rw [← hparse] at hexpired
      exact absurd hexpired (not_lt.mpr hnow)
  | ungenerated | unwritten =>
      have hdone := hunfailed _ List.mem_cons_self
      cases hdone
  | unminted look newRefresh now added err hcurrent hadded hfailed =>
      rcases hfailed with ⟨cause, rest, rfl⟩ |
        ⟨key, keyID, claims, cause, rest, rfl⟩
      · have hdone := hunfailed _ List.mem_cons_self
        cases hdone
      · have hdone := hunfailed _ List.mem_cons_self
        cases hdone
  | reused look deleted revoked hreused =>
      obtain ⟨hsession, hitem⟩ := hon.lookup [_, _] hreq hreused.validated
        hhistory
      subst hsession hitem
      exact .reused hreused.superseded hreused.previous hrest
        (hon.reused_sessions hhistory)
  | unknown look hvalid hcurrent hprevious =>
      obtain ⟨hsession, hitem⟩ := hon.lookup [] hreq hvalid.validated hhistory
      subst hsession hitem
      refine .unknown hcurrent hprevious hrest ?_
      apply sameTables_of_solo hon.solo
      rw [hhistory]
      simp [Lookup.entries, keepsTables]

/-- A whole refresh on a session rotates it, reports a reuse and deletes it, or
leaves everything as it is. -/
theorem OnSession.outcome
    (hon : OnSession cfg first ended id call refreshToken sessionID item)
    {origin : Store}
    (hreach : (machine cfg).Reach anyStep (.initial origin) ended) :
    RefreshOutcome cfg first.store ended.store call refreshToken sessionID
      item := by
  obtain ⟨accessToken, hreq⟩ := hon.request
  cases hrest : call.rest with
  | call op next =>
      have hreturned := hon.served.returned
      rw [hrest] at hreturned
      cases hreturned
  | pure outcome =>
      have hpost := hreach.post_of_returned (sat_program cfg)
        hon.served.lookup hrest
      rw [hreq] at hpost
      cases outcome with
      | refreshTokens outcome =>
          cases outcome with
          | ok result =>
              obtain ⟨look, now, added, hcurrent, hadded, hhistory⟩ := hpost
              obtain ⟨hsession, hitem⟩ := hon.lookup
                (added ++ [_, _, _]) hreq hcurrent.validated
                (by
                  rw [hhistory, List.append_assoc]
                  rfl)
              obtain ⟨hsessions, hothers⟩ :=
                hon.rotated_tables hsession hitem hadded hhistory
              exact .rotated result now (hitem ▸ hcurrent.current) hrest
                hsessions hothers
          | error err => exact hon.failure hreq hrest hpost
      | _ => exact hpost.elim

end Outcomes

end MessagingPlatform.RefreshCalls
