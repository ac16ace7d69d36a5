import MessagingPlatform.System.Commits

/-!
# What a session was created with

Rotations leave the user, the device and the creation time of a session alone.
Whatever such an attribute is in the table, it is what the one verification
that created the session has put there.
-/

namespace MessagingPlatform.SessionOrigins

open Program
open Interleaving
open Instants
open Records
open Primitives
open Tables
open Operations
open Effects
open Freshness
open VerifyRules
open Service
open ServiceRules
open MessagingPlatform.Runs
open Commits

variable {Value : Type} (column : SessionItem → Option Value)

/-- The session that a request created, with an attribute it was created
with. -/
def createdWith : Entry → Option (String × Value)
  | ⟨.transactWriteItems items, .ok ()⟩ =>
      (putSessions items).head?.bind fun put =>
        (column put.2).map fun value => (put.1, value)
  | _ => none

/-- The sessions ever created, each with an attribute, newest first. -/
def origins (pool : Pool) : List (String × Value) :=
  mentioned (createdWith column) pool.log

/-- Rotations leave the attribute alone. -/
def KeptByRotations : Prop :=
  ∀ update item, column (updatedSession update item) = item.bind column

variable {column}
variable {cfg : AuthServiceConfig} {admissible : Pool → Label → Prop}
variable {clock : Time} {pool : Pool} {sessionID : String} {value other : Value}

theorem origins_subset {later : Pool}
    (hreach : (machine cfg).Reach admissible pool later) :
    origins column pool ⊆ origins column later :=
  (hreach.log_suffix.filterMap _).subset

theorem createdSession_of_createdWith {entry : Entry}
    (hcreated : createdWith column entry = some (sessionID, value)) :
    createdSession entry = some sessionID := by
  unfold createdWith at hcreated
  split at hcreated
  · obtain ⟨put, hhead, hvalue⟩ := Option.bind_eq_some_iff.mp hcreated
    obtain ⟨found, -, heq⟩ := Option.map_eq_some_iff.mp hvalue
    cases heq
    simp [createdSession, createdSessions, List.head?_map, hhead]
  · cases hcreated

/-- A session is created once, with one value of the attribute. -/
theorem origin_unique
    (hreach : (machine cfg).Reach admissible (start clock) pool)
    (hvalue : (sessionID, value) ∈ origins column pool)
    (hother : (sessionID, other) ∈ origins column pool) :
    value = other := by
  obtain ⟨event, hevent, hcreated⟩ := mem_mentioned.mp hvalue
  obtain ⟨event', hevent', hcreated'⟩ := mem_mentioned.mp hother
  have hsame := event_unique (createdSession_nodup hreach) hevent hevent'
    (createdSession_of_createdWith hcreated)
    (createdSession_of_createdWith hcreated')
  rw [← hsame, hcreated, Option.some.injEq, Prod.mk.injEq] at hcreated'
  exact hcreated'.2

/-- The attribute in the table is the one that the session was created with. -/
theorem origin_of_item (hkept : KeptByRotations column)
    (hreach : (machine cfg).Reach admissible (start clock) pool)
    {item : SessionItem}
    (hitem : pool.store.sessions.lookup sessionID = some item)
    (hvalue : column item = some value) :
    (sessionID, value) ∈ origins column pool := by
  refine invariant (I := fun pool => ∀ item value,
    pool.store.sessions.lookup sessionID = some item →
      column item = some value → (sessionID, value) ∈ origins column pool)
    ?_ ?_ ?_ ?_ hreach item value hitem hvalue
  · intro item value hitem
    simp [start, Pool.initial, Store.empty] at hitem
  · intro pool id req _ ih _ _ _
    exact ih
  · intro pool id choice call op next response after _ ih hexec _ hlater item
      value hitem hvalue
    have hchange := sessionChange_of_effect sessionID hexec.guarded hexec.effect
    rw [show after.sessions.lookup sessionID = some item from hitem]
      at hchange
    generalize hbefore : pool.store.sessions.lookup sessionID = earlier
      at hchange
    cases hchange with
    | kept hkeeps => exact origins_subset hlater (ih item value hbefore hvalue)
    | rotated update =>
        rw [hkept] at hvalue
        obtain ⟨old, hold, hsame⟩ := Option.bind_eq_some_iff.mp hvalue
        exact origins_subset hlater (ih old value (hbefore.trans hold) hsame)
    | created items item habsent hput =>
        rw [origins, Pool.execCall, mentioned_cons, List.mem_append]
        left
        simp [createdWith, hput, hvalue]
  · intro pool change after _ ih hadvance _ _ item value hitem
    apply ih item value
    rw [← (framed_of_advance hadvance).sessions]
    exact hitem

/-- The attribute in the index is the one that the session was created with. -/
theorem origin_of_index (hkept : KeptByRotations column)
    (hreach : (machine cfg).Reach admissible (start clock) pool)
    {item : SessionItem}
    (hitem : pool.store.userSessionsIndex.lookup sessionID = some item)
    (hvalue : column item = some value) :
    (sessionID, value) ∈ origins column pool := by
  refine invariant (I := fun pool => ∀ item value,
    pool.store.userSessionsIndex.lookup sessionID = some item →
      column item = some value → (sessionID, value) ∈ origins column pool)
    ?_ ?_ ?_ ?_ hreach item value hitem hvalue
  · intro item value hitem
    simp [start, Pool.initial, Store.empty] at hitem
  · intro pool id req _ ih _ _ _
    exact ih
  · intro pool id choice call op next response after _ ih hexec _ hlater item
      value hitem hvalue
    apply origins_subset hlater
    apply ih item value _ hvalue
    rw [← hexec.effect.userSessionsIndex]
    exact hitem
  · intro pool change after hpool ih hadvance _ _ item value hitem hvalue
    rcases indexed_of_advance hadvance hitem with hlisted | ⟨hstored, -⟩
    · exact ih item value hlisted hvalue
    · have horigin : (sessionID, value) ∈ origins column pool :=
        origin_of_item hkept hpool hstored hvalue
      exact horigin

end MessagingPlatform.SessionOrigins
