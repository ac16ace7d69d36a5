import MessagingPlatform.Adapter.StoreRules
import MessagingPlatform.App.Flows

/-!
# What a refresh and a logout do

The guards of `RefreshTokens` and `Logout`.  A refresh reads the session once
and writes it at most once; the guard of the write carries everything the call
has read by then.
-/

namespace MessagingPlatform.SessionRules

open Program
open Instants
open Errors
open Records
open Primitives
open Tables
open Operations
open Stores
open StoreRules
open Flows

/-- The session that a performed rotation wrote, with the hash it replaced. -/
def rotated : Entry → Option (String × String)
  | ⟨.sessionsUpdateItem sessionID update, .ok ()⟩ =>
      some (sessionID, update.prevTokenHash)
  | _ => none

theorem entry_of_rotated {entry : Entry} {sessionID hash : String}
    (hrotated : rotated entry = some (sessionID, hash)) :
    ∃ update : SessionUpdate, update.prevTokenHash = hash ∧
      entry = ⟨.sessionsUpdateItem sessionID update, .ok ()⟩ := by
  unfold rotated at hrotated
  split at hrotated
  · cases hrotated
    exact ⟨_, rfl, rfl⟩
  · cases hrotated

/-- No session was rotated. -/
def Unrotated (history : History) : Prop :=
  ∀ entry ∈ history, rotated entry = none

@[simp]
theorem unrotated_nil : Unrotated [] := by simp [Unrotated]

@[simp]
theorem unrotated_cons {entry : Entry} {history : History} :
    Unrotated (entry :: history) ↔
      rotated entry = none ∧ Unrotated history := by
  simp [Unrotated]

/-- What a refresh knows when it decides about the presented token. -/
structure Lookup where
  validatedAt : Time
  claims : Claims
  item : SessionItem
  now : Time

def Lookup.entries (look : Lookup) : History :=
  [⟨.clockNow, look.now⟩,
    ⟨.sessionsGetItem look.claims.sessionID, .ok (some look.item)⟩,
    ⟨.clockNow, look.validatedAt⟩]

section Refresh

variable (cfg : AuthServiceConfig) (accessToken refreshToken deviceID : String)

/-- The checks a session passes before the presented refresh token is compared
with it. -/
structure Lookup.Valid (look : Lookup) : Prop where
  validated : validateIgnoreExpiry cfg look.validatedAt accessToken =
    .ok look.claims
  bound : look.item.deviceID.getD "" = deviceID
  unexpired : ∃ expiry, parse look.item.expiresAt = some expiry ∧
    look.now ≤ expiry

/-- The presented token is the one the session read holds. -/
structure Lookup.Current (look : Lookup) : Prop
    extends look.Valid cfg accessToken deviceID where
  current : validateRefreshHash cfg refreshToken look.item.refreshTokenHash =
    true

/-- The presented token is the one before. -/
structure Lookup.Reused (look : Lookup) : Prop
    extends look.Valid cfg accessToken deviceID where
  superseded : validateRefreshHash cfg refreshToken
    look.item.refreshTokenHash = false
  previous : validateRefreshHash cfg refreshToken look.item.prevTokenHash =
    true

/-- The attributes a rotation writes, computed from the session read. -/
def Lookup.rotation (look : Lookup) (newRefresh : String) (now : Time) :
    SessionUpdate where
  refreshTokenHash := hashRefreshToken cfg newRefresh
  prevTokenHash := look.item.refreshTokenHash
  expiresAt := format (now + refreshTokenLifetime)
  tokenGeneration := look.item.tokenGeneration + 1
  ttl := unix (now + refreshTokenLifetime)

/-- The history of a refresh that is about to write. -/
def Lookup.rotatingEntries (look : Lookup) (newRefresh : String)
    (now : Time) : History :=
  ⟨.clockNow, now⟩ :: ⟨.randToken, .ok newRefresh⟩ :: look.entries

/-- The requests of `RefreshTokens` and the histories it makes them in. -/
def refreshGuard (older : History) : Op → Prop
  | .sessionsGetItem sessionID => ∃ validatedAt claims,
      validateIgnoreExpiry cfg validatedAt accessToken = .ok claims ∧
        sessionID = claims.sessionID ∧ older = [⟨.clockNow, validatedAt⟩]
  | .randToken => ∃ look : Lookup,
      look.Current cfg accessToken refreshToken deviceID ∧
        older = look.entries
  | .sessionsUpdateItem sessionID update =>
      ∃ (look : Lookup) (newRefresh : String) (now : Time),
        look.Current cfg accessToken refreshToken deviceID ∧
        sessionID = look.claims.sessionID ∧
        update = look.rotation cfg newRefresh now ∧
        older = look.rotatingEntries newRefresh now
  | .sessionsDeleteItem sessionID => ∃ look : Lookup,
      look.Reused cfg accessToken refreshToken deviceID ∧
        sessionID = look.claims.sessionID ∧ older = look.entries
  | .redisSet key ttlSeconds => ∃ (look : Lookup) (response : _),
      look.Reused cfg accessToken refreshToken deviceID ∧
        key = .revokedJTI look.claims.id ∧ ttlSeconds = revokedJTITTL ∧
        older = ⟨.sessionsDeleteItem look.claims.sessionID, response⟩ ::
          look.entries
  | .clockNow => True
  | .uuidNewString => True
  | .signingKey => True
  | .signedString _ _ claims =>
      ∃ (look : Lookup) (newRefresh : String) (now : Time),
        look.Current cfg accessToken refreshToken deviceID ∧
        Signs cfg look.claims.subject look.claims.sessionID
          (⟨.sessionsUpdateItem look.claims.sessionID
              (look.rotation cfg newRefresh now), .ok ()⟩ ::
            look.rotatingEntries newRefresh now) older claims
  | _ => False

/-- The ways in which a refresh fails, each with all that it has performed. -/
inductive RefreshFailed : History → GoError → Prop
  | unauthorized (validatedAt : Time) (cause : GoError)
      (hinvalid : validateIgnoreExpiry cfg validatedAt accessToken =
        .error cause) :
      RefreshFailed [⟨.clockNow, validatedAt⟩]
        (.errorf "%w: %w" [] [.sentinel .errUnauthorized, cause])
  | unread (validatedAt : Time) (claims : Claims)
      (response : Op.Res (.sessionsGetItem claims.sessionID)) (err : GoError)
      (hvalidated : validateIgnoreExpiry cfg validatedAt accessToken =
        .ok claims)
      (hresponse : ∀ item, response ≠ .ok (some item))
      (herr : err = .sentinel .errSessionRevoked ∨
        ∃ cause, err = wrapped "get session: %w" cause) :
      RefreshFailed [⟨.sessionsGetItem claims.sessionID, response⟩,
        ⟨.clockNow, validatedAt⟩] err
  | mismatched (validatedAt : Time) (claims : Claims) (item : SessionItem)
      (hvalidated : validateIgnoreExpiry cfg validatedAt accessToken =
        .ok claims)
      (hdevice : item.deviceID.getD "" ≠ deviceID) :
      RefreshFailed [⟨.sessionsGetItem claims.sessionID, .ok (some item)⟩,
        ⟨.clockNow, validatedAt⟩] (.sentinel .errDeviceMismatch)
  | unparsable (validatedAt : Time) (claims : Claims) (item : SessionItem)
      (hvalidated : validateIgnoreExpiry cfg validatedAt accessToken =
        .ok claims)
      (hparse : parse item.expiresAt = none) :
      RefreshFailed [⟨.sessionsGetItem claims.sessionID, .ok (some item)⟩,
        ⟨.clockNow, validatedAt⟩]
        (wrapped "parse session expiry: %w" parseFailure)
  | expired (look : Lookup) (expiry : Time)
      (hvalidated : validateIgnoreExpiry cfg look.validatedAt accessToken =
        .ok look.claims)
      (hparse : parse look.item.expiresAt = some expiry)
      (hexpired : expiry < look.now) :
      RefreshFailed look.entries (.sentinel .errSessionExpired)
  | ungenerated (look : Lookup) (cause err : GoError)
      (hcurrent : look.Current cfg accessToken refreshToken deviceID) :
      RefreshFailed (⟨.randToken, .error cause⟩ :: look.entries)
        (wrapped "generate refresh token: %w" err)
  | unwritten (look : Lookup) (newRefresh : String) (now : Time)
      (cause : DynamoError) (err : GoError)
      (hcurrent : look.Current cfg accessToken refreshToken deviceID) :
      RefreshFailed (⟨.sessionsUpdateItem look.claims.sessionID
          (look.rotation cfg newRefresh now), .error cause⟩ ::
        look.rotatingEntries newRefresh now)
        (wrapped "update session: %w" err)
  | unminted (look : Lookup) (newRefresh : String) (now : Time)
      (added : History) (err : GoError)
      (hcurrent : look.Current cfg accessToken refreshToken deviceID)
      (hadded : ∀ entry ∈ added, isMint entry.1 = true)
      (hfailed : MintFailed added) :
      RefreshFailed (added ++ ⟨.sessionsUpdateItem look.claims.sessionID
          (look.rotation cfg newRefresh now), .ok ()⟩ ::
        look.rotatingEntries newRefresh now)
        (wrapped "mint access token: %w" err)
  | reused (look : Lookup)
      (deleted : Op.Res (.sessionsDeleteItem look.claims.sessionID))
      (revoked : Op.Res (.redisSet (.revokedJTI look.claims.id) revokedJTITTL))
      (hreused : look.Reused cfg accessToken refreshToken deviceID) :
      RefreshFailed (⟨.redisSet (.revokedJTI look.claims.id) revokedJTITTL,
          revoked⟩ :: ⟨.sessionsDeleteItem look.claims.sessionID, deleted⟩ ::
        look.entries) (.sentinel .errRefreshTokenReuse)
  | unknown (look : Lookup)
      (hvalid : look.Valid cfg accessToken deviceID)
      (hcurrent : validateRefreshHash cfg refreshToken
        look.item.refreshTokenHash = false)
      (hprevious : look.item.prevTokenHash ≠ "" →
        validateRefreshHash cfg refreshToken look.item.prevTokenHash = false) :
      RefreshFailed look.entries (.sentinel .errInvalidRefreshToken)

/-- A refresh that succeeds has written the session it read, under the hash of
the token it returns. -/
def refreshPost (reached : History) : Except GoError RefreshResult → Prop
  | .ok result => ∃ (look : Lookup) (now : Time) (added : History),
      look.Current cfg accessToken refreshToken deviceID ∧
      (∀ entry ∈ added, isMint entry.1 = true) ∧
      reached = added ++ ⟨.sessionsUpdateItem look.claims.sessionID
        (look.rotation cfg result.refreshToken now), .ok ()⟩ ::
        look.rotatingEntries result.refreshToken now
  | .error err => RefreshFailed cfg accessToken refreshToken deviceID reached
      err

variable {cfg accessToken refreshToken deviceID}

/-- A refresh that fails has written nothing, unless the mint failed. -/
theorem RefreshFailed.unrotated {reached : History} {err : GoError}
    (hfailed : RefreshFailed cfg accessToken refreshToken deviceID reached
      err) :
    Unrotated reached ∨
      ∃ added older, reached = added ++ older ∧ MintFailed added := by
  cases hfailed with
  | unminted look newRefresh now added err hcurrent hadded hfailed =>
      exact Or.inr ⟨added, _, rfl, hfailed⟩
  | _ =>
      exact Or.inl (by simp [Lookup.rotatingEntries, Lookup.entries, rotated])

/-- A refresh that reports a reused token has asked for the deletion of the
session and the revocation of the token. -/
theorem reused_of_failed {reached : History}
    (hfailed : RefreshFailed cfg accessToken refreshToken deviceID reached
      (.sentinel .errRefreshTokenReuse)) :
    ∃ (look : Lookup)
      (deleted : Op.Res (.sessionsDeleteItem look.claims.sessionID))
      (revoked : Op.Res (.redisSet (.revokedJTI look.claims.id)
        revokedJTITTL)),
      look.Reused cfg accessToken refreshToken deviceID ∧
      reached = ⟨.redisSet (.revokedJTI look.claims.id) revokedJTITTL,
          revoked⟩ :: ⟨.sessionsDeleteItem look.claims.sessionID, deleted⟩ ::
        look.entries := by
  generalize herr : GoError.sentinel .errRefreshTokenReuse = err at hfailed
  cases hfailed with
  | reused look deleted revoked hreused =>
      exact ⟨look, deleted, revoked, hreused, rfl⟩
  | unread validatedAt claims response err hvalidated hresponse hreported =>
      subst herr
      rcases hreported with hreported | ⟨cause, hreported⟩ <;> cases hreported
  | _ => cases herr

theorem sat_rotateRefreshToken (look : Lookup)
    (hcurrent : look.Current cfg accessToken refreshToken deviceID) :
    Sat (refreshGuard cfg accessToken refreshToken deviceID)
      (refreshPost cfg accessToken refreshToken deviceID)
      (rotateRefreshToken cfg look.claims.subject look.claims.sessionID
        (fromSessionItem look.claims.sessionID look.item)).run
      look.entries := by
  unfold rotateRefreshToken
  rw [sat_run_bind, sat_wrapError]
  apply sat_generateRefreshToken
  · exact ⟨look, hcurrent, rfl⟩
  · intro cause err
    exact .ungenerated look cause err hcurrent
  intro newRefresh
  dsimp only [Except.mapError]
  rw [sat_run_bind, sat_request]
  refine ⟨trivial, fun now => ?_⟩
  dsimp only
  rw [sat_run_bind, sat_wrapError]
  apply sat_updateSession
  · exact ⟨look, newRefresh, now, hcurrent, rfl, rfl, rfl⟩
  · intro cause err
    exact .unwritten look newRefresh now cause err hcurrent
  dsimp only [Except.mapError]
  rw [sat_run_bind, sat_wrapError]
  apply sat_mintAccessToken
  · exact fun _ => trivial
  · exact fun _ => trivial
  · exact fun _ => trivial
  · intro reached privateKey keyID claims hsigns
    exact ⟨look, newRefresh, now, hcurrent, hsigns⟩
  · intro added err hadded hfailed
    exact .unminted look newRefresh now added err hcurrent hadded hfailed
  · intro added minted hadded
    exact ⟨look, now, added, hcurrent, hadded, rfl⟩

theorem sat_revokeReusedSession (look : Lookup)
    (hreused : look.Reused cfg accessToken refreshToken deviceID) :
    Sat (refreshGuard cfg accessToken refreshToken deviceID)
      (refreshPost cfg accessToken refreshToken deviceID)
      (revokeReusedSession look.claims).run look.entries := by
  have hrevoke : ∀ response,
      Sat (refreshGuard cfg accessToken refreshToken deviceID)
        (refreshPost cfg accessToken refreshToken deviceID)
        (do
          let _ ← attempt (revoke look.claims.id)
          throw (.sentinel .errRefreshTokenReuse) : Flow RefreshResult).run
        (⟨.sessionsDeleteItem look.claims.sessionID, response⟩ ::
          look.entries) := by
    intro response
    rw [sat_run_bind, sat_attempt]
    apply sat_revoke
    · exact ⟨look, response, hreused, rfl, rfl, rfl⟩
    · intro cause err
      exact .reused look response (.error cause) hreused
    · exact .reused look response (.ok ()) hreused
  unfold revokeReusedSession
  rw [sat_run_bind, sat_attempt]
  apply sat_deleteSession
  · exact ⟨look, hreused, rfl, rfl⟩
  · intro cause err
    exact hrevoke _
  · exact hrevoke _

theorem sat_lookupSession {post : History → Except GoError SessionRecord → Prop}
    {validatedAt : Time} {claims : Claims}
    (hvalidated : validateIgnoreExpiry cfg validatedAt accessToken =
      .ok claims)
    (herror : ∀ response err, (∀ item, response ≠ .ok (some item)) →
      (err = .sentinel .errSessionRevoked ∨
        ∃ cause, err = wrapped "get session: %w" cause) →
      post [⟨.sessionsGetItem claims.sessionID, response⟩,
        ⟨.clockNow, validatedAt⟩] (.error err))
    (hok : ∀ item,
      post [⟨.sessionsGetItem claims.sessionID, .ok (some item)⟩,
          ⟨.clockNow, validatedAt⟩]
        (.ok (fromSessionItem claims.sessionID item))) :
    Sat (refreshGuard cfg accessToken refreshToken deviceID) post
      (lookupSession claims.sessionID).run [⟨.clockNow, validatedAt⟩] := by
  have hfail : ∀ (response : Op.Res (.sessionsGetItem claims.sessionID))
      (err : GoError), (∀ item, response ≠ .ok (some item)) →
      Sat (refreshGuard cfg accessToken refreshToken deviceID) post
        (if errorsIs .errNotFound err = true then
          throw (.sentinel .errSessionRevoked)
        else throw (wrapped "get session: %w" err) : Flow SessionRecord).run
        [⟨.sessionsGetItem claims.sessionID, response⟩,
          ⟨.clockNow, validatedAt⟩] := by
    intro response err hresponse
    split
    · exact herror response _ hresponse (Or.inl rfl)
    · exact herror response _ hresponse (Or.inr ⟨err, rfl⟩)
  unfold lookupSession
  rw [sat_run_bind, sat_attempt]
  apply sat_getSessionByID
  · exact ⟨validatedAt, claims, hvalidated, rfl, rfl⟩
  · intro cause err
    exact hfail _ err (by simp)
  · intro err
    exact hfail _ err (by simp)
  · exact hok

/-- Every request of a refresh is one that its guard describes. -/
theorem sat_refreshTokens :
    Sat (refreshGuard cfg accessToken refreshToken deviceID)
      (refreshPost cfg accessToken refreshToken deviceID)
      (refreshTokens cfg accessToken refreshToken deviceID).run [] := by
  unfold refreshTokens
  rw [sat_run_bind, sat_request]
  refine ⟨trivial, fun validatedAt => ?_⟩
  dsimp only
  cases hvalidated : validateIgnoreExpiry cfg validatedAt accessToken with
  | error err => exact RefreshFailed.unauthorized validatedAt err hvalidated
  | ok claims =>
      dsimp only
      rw [sat_run_bind]
      apply sat_lookupSession hvalidated
      · intro response err hresponse herr
        exact RefreshFailed.unread validatedAt claims response err hvalidated
          hresponse herr
      intro item
      dsimp only [fromSessionItem]
      by_cases hdevice : item.deviceID.getD "" = deviceID
      · cases hparse : parse item.expiresAt with
        | none =>
            simp only [hdevice, ne_eq, not_true_eq_false, if_false]
            exact RefreshFailed.unparsable validatedAt claims item hvalidated
              hparse
        | some expiry =>
            simp only [hdevice, ne_eq, not_true_eq_false, if_false]
            rw [sat_run_bind, sat_request]
            refine ⟨trivial, fun now => ?_⟩
            dsimp only
            by_cases hexpired : now > expiry
            · rw [if_pos hexpired]
              exact RefreshFailed.expired ⟨validatedAt, claims, item, now⟩
                expiry hvalidated hparse hexpired
            rw [if_neg hexpired]
            have hvalid : Lookup.Valid cfg accessToken deviceID
                ⟨validatedAt, claims, item, now⟩ :=
              { validated := hvalidated
                bound := hdevice
                unexpired := ⟨expiry, hparse, not_lt.mp hexpired⟩ }
            by_cases hcurrent : validateRefreshHash cfg refreshToken
                item.refreshTokenHash = true
            · rw [if_pos hcurrent]
              rw [← hdevice]
              exact sat_rotateRefreshToken ⟨validatedAt, claims, item, now⟩
                ⟨hdevice ▸ hvalid, hcurrent⟩
            rw [if_neg hcurrent]
            by_cases hprevious : item.prevTokenHash ≠ "" ∧
                validateRefreshHash cfg refreshToken item.prevTokenHash = true
            · rw [if_pos hprevious]
              exact sat_revokeReusedSession ⟨validatedAt, claims, item, now⟩
                ⟨hvalid, Bool.not_eq_true _ ▸ hcurrent, hprevious.2⟩
            · rw [if_neg hprevious]
              exact RefreshFailed.unknown ⟨validatedAt, claims, item, now⟩
                hvalid (Bool.not_eq_true _ ▸ hcurrent) fun hset =>
                  Bool.not_eq_true _ ▸ not_and.mp hprevious hset
      · rw [if_pos hdevice]
        exact RefreshFailed.mismatched validatedAt claims item hvalidated
          hdevice

end Refresh

section Logout

variable (cfg : AuthServiceConfig) (accessToken : String)

/-- The requests of `Logout` and the histories it makes them in. -/
def logoutGuard (older : History) : Op → Prop
  | .clockNow => older = []
  | .sessionsDeleteItem sessionID => ∃ now claims,
      validateAccessToken cfg now accessToken = .ok claims ∧
        sessionID = claims.sessionID ∧ older = [⟨.clockNow, now⟩]
  | .redisSet key ttlSeconds => ∃ (now : Time) (claims : Claims)
      (response : _), validateAccessToken cfg now accessToken = .ok claims ∧
        key = .revokedJTI claims.id ∧ ttlSeconds = revokedJTITTL ∧
        older = [⟨.sessionsDeleteItem claims.sessionID, response⟩,
          ⟨.clockNow, now⟩]
  | _ => False

/-- A logout that succeeds has asked for the deletion of its session, and has
revoked its token. -/
def logoutPost (reached : History) : Except GoError Unit → Prop
  | .ok () => ∃ (now : Time) (claims : Claims) (deleted : _),
      validateAccessToken cfg now accessToken = .ok claims ∧
        reached = [⟨.redisSet (.revokedJTI claims.id) revokedJTITTL, .ok ()⟩,
          ⟨.sessionsDeleteItem claims.sessionID, deleted⟩, ⟨.clockNow, now⟩]
  | .error _ => True

variable {cfg accessToken}

/-- Every request of a logout is one that its guard describes. -/
theorem sat_logout :
    Sat (logoutGuard cfg accessToken) (logoutPost cfg accessToken)
      (logout cfg accessToken).run [] := by
  unfold logout
  rw [sat_run_bind, sat_request]
  refine ⟨rfl, fun now => ?_⟩
  dsimp only
  cases hvalidated : validateAccessToken cfg now accessToken with
  | error err => trivial
  | ok claims =>
      have hrevoke : ∀ response, Sat (logoutGuard cfg accessToken)
          (logoutPost cfg accessToken)
          (wrapError (wrapped "revoke JTI: %w") (revoke claims.id)).run
          [⟨.sessionsDeleteItem claims.sessionID, response⟩,
            ⟨.clockNow, now⟩] := by
        intro response
        rw [sat_wrapError]
        apply sat_revoke
        · exact ⟨now, claims, response, hvalidated, rfl, rfl, rfl⟩
        · intro cause err
          trivial
        · exact ⟨now, claims, response, hvalidated, rfl⟩
      dsimp only
      rw [sat_run_bind, sat_attempt]
      apply sat_deleteSession
      · exact ⟨now, claims, hvalidated, rfl, rfl⟩
      · intro cause err
        exact hrevoke _
      · exact hrevoke _

end Logout

end MessagingPlatform.SessionRules
