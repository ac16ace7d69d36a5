import MessagingPlatform.App.VerifySteps

/-!
# Refreshes as single steps

What a refresh that nothing interrupts returns when it presents the credentials
of a stored session: a rotation while the session has not expired, and an error
afterwards.
-/

namespace MessagingPlatform.RefreshSteps

open Program
open OneStep
open Instants
open Errors
open Records
open Identifiers
open Primitives
open Tables
open Operations
open Stores
open StoreSteps
open Flows
open VerifySteps

variable {cfg : AuthServiceConfig} {store after : Store}
variable {accessToken refreshToken deviceID userID sessionID : String}
variable {item : SessionItem}

section Rotations

/-- What a rotation writes. -/
def rotationUpdate (cfg : AuthServiceConfig) (session : SessionRecord)
    (newRefresh : String) (now : Time) : SessionUpdate where
  refreshTokenHash := hashRefreshToken cfg newRefresh
  prevTokenHash := session.refreshTokenHash
  expiresAt := format (now + refreshTokenLifetime)
  tokenGeneration := session.tokenGeneration + 1
  ttl := unix (now + refreshTokenLifetime)

/-- The store after a rotation and its mint. -/
def rotated (cfg : AuthServiceConfig) (store : Store) (sessionID : String)
    (session : SessionRecord) (newRefresh jti : String) : Store :=
  { store with
    issued := jti :: newRefresh :: store.issued
    sessions := store.sessions.insert sessionID
      (updatedSession (rotationUpdate cfg session newRefresh store.clock)
        (store.sessions.lookup sessionID)) }

def rotationResult (cfg : AuthServiceConfig) (userID sessionID newRefresh
    jti : String) (now : Time) : RefreshResult where
  accessToken := (mintedToken cfg userID sessionID jti now).token
  refreshToken := newRefresh
  accessTokenExpiry := (mintedToken cfg userID sessionID jti now).expiresAt

theorem returns_rotateRefreshToken (session : SessionRecord) :
    Returns cfg (rotateRefreshToken cfg userID sessionID session) store
      fun result after => ∃ newRefresh jti,
        Drawn store.issued [jti] newRefresh ∧
        result = rotationResult cfg userID sessionID newRefresh jti
          store.clock ∧
        after = rotated cfg store sessionID session newRefresh jti := by
  unfold rotateRefreshToken
  refine (returns_generateRefreshToken.wrapError.bind
    (fun newRefresh middle result after => ∃ jti, isUUIDText jti = true ∧
      jti ∉ middle.issued ∧
      result = rotationResult cfg userID sessionID newRefresh jti
        store.clock ∧
      after = rotated cfg store sessionID session newRefresh jti) ?_).congr ?_
  · rintro newRefresh middle ⟨-, rfl⟩
    refine Returns.of_certain (certain_request fun _ => rfl) ?_
    refine Returns.of_certain
      (certain_wrapError _ (certain_updateSession _ _)) ?_
    refine ((returns_mintAccessToken _ _).wrapError.bind
      (fun minted last result after =>
        result = ⟨minted.token, newRefresh, minted.expiresAt⟩ ∧
          after = last) fun minted last _ => returns_pure _).congr ?_
    intro result after
    constructor
    · rintro ⟨minted, last, ⟨jti, hshape, hfresh, rfl, rfl⟩, rfl, rfl⟩
      exact ⟨jti, hshape, hfresh, rfl, rfl⟩
    · rintro ⟨jti, hshape, hfresh, rfl, rfl⟩
      exact ⟨_, _, ⟨jti, hshape, hfresh, rfl, rfl⟩, rfl, rfl⟩
  · intro result after
    constructor
    · rintro ⟨newRefresh, middle, ⟨htoken, rfl⟩, jti, hshape, hfresh, hrest⟩
      exact ⟨newRefresh, jti,
        drawn_rotation_iff.mpr ⟨htoken, hshape, hfresh⟩, hrest⟩
    · rintro ⟨newRefresh, jti, hdrawn, hrest⟩
      obtain ⟨htoken, hshape, hfresh⟩ := drawn_rotation_iff.mp hdrawn
      exact ⟨newRefresh, _, ⟨htoken, rfl⟩, jti, hshape, hfresh, hrest⟩

end Rotations

/-- The credentials of a stored session: an access token for it, its device and
its refresh token. -/
structure Presented (cfg : AuthServiceConfig) (store : Store)
    (accessToken refreshToken deviceID sessionID : String)
    (item : SessionItem) : Prop where
  stored : store.sessions.lookup sessionID = some item
  named : ∃ claims, validateIgnoreExpiry cfg store.clock accessToken =
    .ok claims ∧ claims.sessionID = sessionID
  bound : item.deviceID.getD "" = deviceID
  current : validateRefreshHash cfg refreshToken item.refreshTokenHash = true

/-- The expiry check of `RefreshTokens`. -/
def Unexpired (store : Store) (item : SessionItem) : Prop :=
  ∃ expiry, parse item.expiresAt = some expiry ∧ store.clock ≤ expiry

/-- A refresh with the credentials of a session depends on its expiry. -/
theorem ends_refreshTokens_iff
    (hpresented : Presented cfg store accessToken refreshToken deviceID
      sessionID item) :
    ∃ userID, ∀ outcome after, Ends (steps cfg)
        (refreshTokens cfg accessToken refreshToken deviceID).run store outcome
        after ↔
      Ends (steps cfg)
        (match parse item.expiresAt with
        | none => throw (wrapped "parse session expiry: %w" parseFailure)
        | some expiry =>
            if store.clock > expiry then throw (.sentinel .errSessionExpired)
            else rotateRefreshToken cfg userID sessionID
              (fromSessionItem sessionID item) : Flow RefreshResult).run store
        outcome after := by
  obtain ⟨hstored, ⟨claims, hvalid, rfl⟩, hbound, hcurrent⟩ := hpresented
  have hclock : Certain (steps cfg) (request .clockNow).run store
      (.ok store.clock) store := certain_request fun _ => rfl
  have hlookup : Certain (steps cfg) (lookupSession claims.sessionID).run store
      (.ok (fromSessionItem claims.sessionID item)) store :=
    (certain_attempt (certain_getSessionByID hstored)).run_bind_certain
      certain_run_pure
  refine ⟨claims.subject, fun outcome after => ?_⟩
  unfold refreshTokens
  rw [hclock.run_bind]
  simp only [hvalid]
  rw [hlookup.run_bind]
  have hdevice : (fromSessionItem claims.sessionID item).deviceID = deviceID :=
    hbound
  have hexpiry : (fromSessionItem claims.sessionID item).expiresAt =
      item.expiresAt := rfl
  have hhash : (fromSessionItem claims.sessionID item).refreshTokenHash =
      item.refreshTokenHash := rfl
  simp only [hdevice, ne_eq, not_true_eq_false, if_false, hexpiry, hhash,
    hcurrent, if_true]
  cases parse item.expiresAt with
  | none => rfl
  | some expiry =>
      dsimp only
      rw [hclock.run_bind]

/-- It succeeds exactly if the session has not expired. -/
theorem refreshes_iff {outcome : Except GoError RefreshResult}
    (hpresented : Presented cfg store accessToken refreshToken deviceID
      sessionID item)
    (hends : Ends (steps cfg)
      (refreshTokens cfg accessToken refreshToken deviceID).run store outcome
      after) :
    (∃ result, outcome = .ok result) ↔ Unexpired store item := by
  obtain ⟨userID, hiff⟩ := ends_refreshTokens_iff hpresented
  rw [hiff] at hends
  rw [Unexpired]
  cases hparse : parse item.expiresAt with
  | none =>
      rw [hparse] at hends
      obtain ⟨rfl, -⟩ := (certain_run_throw _ _).mp hends
      simp
  | some expiry =>
      rw [hparse] at hends
      simp only [Option.some.injEq, exists_eq_left']
      dsimp only at hends
      split at hends
      · next hexpired =>
          obtain ⟨rfl, -⟩ := (certain_run_throw _ _).mp hends
          simp [hexpired]
      · next hunexpired =>
          obtain ⟨result, rfl, -⟩ :=
            (returns_rotateRefreshToken _ _ _).mp hends
          exact ⟨fun _ => not_lt.mp hunexpired, fun _ => ⟨result, rfl⟩⟩

/-- It returns if the random sources do. -/
theorem exists_ends_refreshTokens
    (hpresented : Presented cfg store accessToken refreshToken deviceID
      sessionID item) (hsupplied : Supplied store) :
    ∃ outcome after, Ends (steps cfg)
      (refreshTokens cfg accessToken refreshToken deviceID).run store outcome
      after := by
  obtain ⟨userID, hiff⟩ := ends_refreshTokens_iff hpresented
  simp only [hiff]
  cases parse item.expiresAt with
  | none => exact ⟨_, _, certain_run_throw.ends⟩
  | some expiry =>
      dsimp only
      split
      · exact ⟨_, _, certain_run_throw.ends⟩
      · obtain ⟨_, _, jti, token, hdrawn⟩ := hsupplied.drawn
        exact ⟨_, _, (returns_rotateRefreshToken _ _ _).mpr
          ⟨_, rfl, token, jti, hdrawn.tail.tail, rfl, rfl⟩⟩

end MessagingPlatform.RefreshSteps
