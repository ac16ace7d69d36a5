import MessagingPlatform.Port.ClientAddress
import MessagingPlatform.System.BlockedAddresses

/-!
# The limit of an address

The requests of a peer are counted for the address that their header claims.
A peer that claims one address is held to the limit; one that changes the value
it sends is counted anew for each.
-/

namespace MessagingPlatform.AddressLimits

open Program
open Interleaving
open FixedWindow
open Instants
open Primitives
open Tables
open Operations
open Service
open ServiceRules
open ClientAddress
open RequestCounters
open BlockedAddresses
open Deployment

section Definitions

def isAddressCounter : RedisKey → Bool
  | .otpReqIP _ => true
  | _ => false

/-- Call `id` is a code request that the peer at `address` made through the
proxy, with the header value `sent id`. -/
def FromPeer (peerAddr : Option String) (address : String)
    (sent : ℕ → Option String) (pool : Pool) (id : ℕ) : Prop :=
  ∃ phone others, (pool.calls.lookup id).map Call.req =
    some (.requestOTP phone
      (extractClientIP (behindProxy others peerAddr address (sent id))))

/-- Call `id` passed the limit of its address, from the opening of a window to
its deadline. -/
def PassesIn (opening : Charge) (pool : Pool) (id : ℕ) : Prop :=
  ∃ count ∈ counted pool.log, count.1.call = id ∧
    isAddressCounter count.1.key = true ∧
    passes rateWindow opening.time
      (count.1.time, decide (count.2 ≤ otpRequestRateLimitPerIP)) = true

/-- Calls of the peer that passed in one window of the limit. -/
structure PassedWindow (peerAddr : Option String) (address : String)
    (sent : ℕ → Option String) (pool : Pool) (opening : Charge)
    (ids : List ℕ) : Prop where
  opened : (opening, 1) ∈ counted pool.log
  counter : isAddressCounter opening.key = true
  opener : FromPeer peerAddr address sent pool opening.call
  distinct : ids.Nodup
  passed : ∀ id ∈ ids, FromPeer peerAddr address sent pool id ∧
    PassesIn opening pool id

/-- All calls of the peer claim the same address. -/
def ClaimsOne (peerAddr : Option String) (address : String)
    (sent : ℕ → Option String) (pool : Pool) : Prop :=
  ∃ first, ∀ id, FromPeer peerAddr address sent pool id →
    claimed peerAddr address (sent id) = first

end Definitions

variable {cfg : AuthServiceConfig} {admissible : Pool → Label → Prop}
variable {clock : Time} {pool : Pool}
variable {peerAddr : Option String} {address : String}
variable {sent : ℕ → Option String}

/-- The counter of a peer is that of the address it claims. -/
theorem key_of_fromPeer {count : Charge × ℕ}
    (hreach : (machine cfg).Reach admissible (start clock) pool)
    (hmem : count ∈ counted pool.log)
    (haddress : isAddressCounter count.1.key = true)
    (hpeer : FromPeer peerAddr address sent pool count.1.call) :
    count.1.key = .otpReqIP (claimed peerAddr address (sent count.1.call)) := by
  obtain ⟨event, hevent, hcharge⟩ := List.mem_filterMap.mp hmem
  obtain ⟨call, hcall, -, hguard⟩ :=
    hreach.event_guard (sat_program cfg) hevent
  obtain ⟨phone, others, hreq⟩ := hpeer
  unfold chargeOf at hcharge
  split at hcharge
  · next key windowSeconds found hentry =>
      cases hcharge
      rw [hcall, Option.map_some, Option.some.injEq] at hreq
      rw [hentry, hreq] at hguard
      obtain ⟨-, ⟨hkey, -⟩ | hkey⟩ := hguard
      · simp only [hkey] at haddress
        cases haddress
      · simp only [hkey, extractClientIP_behindProxy]
  · cases hcharge

/-- Calls that claim one address are held to its limit. -/
theorem length_passed_le {opening : Charge} {ids : List ℕ}
    (hreach : (machine cfg).Reach admissible (start clock) pool)
    (hclaims : ClaimsOne peerAddr address sent pool)
    (hwindow : PassedWindow peerAddr address sent pool opening ids) :
    ids.length ≤ otpRequestRateLimitPerIP := by
  obtain ⟨first, hfirst⟩ := hclaims
  have hkey : opening.key = .otpReqIP first := by
    rw [key_of_fromPeer hreach hwindow.opened hwindow.counter hwindow.opener,
      hfirst _ hwindow.opener]
  have hsubset : ids ⊆ ((counted pool.log).filter
      (allowedIn otpRequestRateLimitPerIP opening)).map (·.1.call) := by
    intro id hid
    obtain ⟨hpeer, count, hmem, rfl, hcounter, hpasses⟩ :=
      hwindow.passed id hid
    have hsame : count.1.key = opening.key := by
      rw [key_of_fromPeer hreach hmem hcounter hpeer, hfirst _ hpeer, hkey]
    refine List.mem_map_of_mem (List.mem_filter.mpr ⟨hmem, ?_⟩)
    rw [allowedIn, hpasses, hsame]
    simp
  have hcalls := (List.subperm_of_subset hwindow.distinct hsubset).length_le
  rw [List.length_map] at hcalls
  exact hcalls.trans (length_allowedIn_le (charged hreach) hwindow.opened _)

/-- Two header values are counted as one address exactly if they claim the same,
and a peer that claims one address passes the limit no more often than that in a
window. -/
theorem address_limit_of_claimed (peerAddr : Option String) (address : String) :
    (∀ others others' sent sent',
      extractClientIP (behindProxy others peerAddr address sent) =
          extractClientIP (behindProxy others' peerAddr address sent') ↔
        claimed peerAddr address sent = claimed peerAddr address sent') ∧
    ∀ (cfg : AuthServiceConfig) (clock : Time) (pool : Pool)
      (sent : ℕ → Option String) (opening : Charge) (ids : List ℕ),
      (machine cfg).Reach anyStep (start clock) pool →
      ClaimsOne peerAddr address sent pool →
      PassedWindow peerAddr address sent pool opening ids →
      ids.length ≤ otpRequestRateLimitPerIP := by
  constructor
  · intro others others' sent sent'
    rw [extractClientIP_behindProxy, extractClientIP_behindProxy]
  · intro cfg clock pool sent opening ids hreach hclaims hwindow
    exact length_passed_le hreach hclaims hwindow

section Runs

/-- Ten requests of a peer that sends no header of its own. -/
def plain : Pool := run (exhausting fun _ => "198.51.100.7")

/-- Eleven requests of that peer, each with another header value. -/
def disguised (id : ℕ) : Option String := some ("192.0.2." ++ toString id)

def spread : Pool :=
  run (exhausting (fun id => "192.0.2." ++ toString id) ++
    serve 10 (.requestOTP "+14155550104" "192.0.2.10") (issuing 14))

/-- The phone that call `id` of these runs names. -/
def named (id : ℕ) : String :=
  (ownPhones.map Prod.fst).getD (id / 3) ""

def opener (clientIP : String) : Charge := ⟨0, .otpReqIP clientIP, evening⟩

/-- The calls of a run that passed, checked one by one. -/
theorem passedWindow_of_calls {count : ℕ} {pool : Pool} {clientIP : String}
    (hcount : 0 < count)
    (hcalls : (opener clientIP, 1) ∈ counted pool.log ∧
      ∀ id ∈ List.range count, (pool.calls.lookup id).map Call.req =
          some (.requestOTP (named id) (extractClientIP
            (behindProxy (fun _ => []) peerAddr address (sent id)))) ∧
        PassesIn (opener clientIP) pool id) :
    PassedWindow peerAddr address sent pool (opener clientIP)
      (List.range count) where
  opened := hcalls.1
  counter := rfl
  opener := ⟨_, _, (hcalls.2 0 (List.mem_range.mpr hcount)).1⟩
  distinct := List.nodup_range
  passed id hid := ⟨⟨_, _, (hcalls.2 id hid).1⟩, (hcalls.2 id hid).2⟩

instance (opening : Charge) (pool : Pool) (id : ℕ) :
    Decidable (PassesIn opening pool id) :=
  inferInstanceAs (Decidable (∃ count ∈ _, _))

/-- A peer that changes the value it sends passes an eleventh time. -/
theorem spread_exceeds :
    extractClientIP (behindProxy (fun _ => []) none "198.51.100.7"
        (disguised 0)) ≠
      extractClientIP (behindProxy (fun _ => []) none "198.51.100.7"
        (disguised 1)) ∧
    (machine crowded).Reach withoutFaults (start evening) spread ∧
    PassedWindow none "198.51.100.7" disguised spread (opener "192.0.2.0")
      (List.range 11) ∧
    otpRequestRateLimitPerIP < (List.range 11).length :=
  ⟨by decide +kernel, reach_run _,
    passedWindow_of_calls (by decide) (by decide +kernel), by decide⟩

theorem plain_within :
    PassedWindow none "198.51.100.7" (fun _ => none) plain
      (opener "198.51.100.7") (List.range 10) ∧
    (List.range 10).length ≤ otpRequestRateLimitPerIP := by
  have hreach : (machine crowded).Reach anyStep (start evening) plain :=
    (reach_run _).mono fun _ _ _ => trivial
  have hwindow : PassedWindow none "198.51.100.7" (fun _ => none) plain
      (opener "198.51.100.7") (List.range 10) :=
    passedWindow_of_calls (by decide) (by decide +kernel)
  exact ⟨hwindow, (address_limit_of_claimed none "198.51.100.7").2 crowded
    evening plain _ _ _ hreach ⟨_, fun _ _ => rfl⟩ hwindow⟩

end Runs

end MessagingPlatform.AddressLimits
