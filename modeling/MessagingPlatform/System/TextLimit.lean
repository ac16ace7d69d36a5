import MessagingPlatform.Core.Chronology
import MessagingPlatform.System.RequestCounters

/-!
# How many codes a phone is sent

A call hands a code to the sender at most once, and only after the limiter has
allowed it.  Whatever the interleaving, however long calls are held up and
whatever fails, the codes sent to a phone since the service started are within
the limit for each window that has begun since.
-/

namespace MessagingPlatform.TextLimit

open Program
open Interleaving
open Chronology
open FixedWindow
open Instants
open Primitives
open Tables
open Operations
open Effects
open RequestRules
open Service
open ServiceRules
open MessagingPlatform.Runs
open RequestCounters
open Deployment

section Definitions

/-- The phone that a request handed a code for to the sender. -/
def textedPhone : Entry → Option String
  | ⟨.sendOTP recipient _, _⟩ => some recipient
  | _ => none

/-- The calls that have handed a code for the phone to the sender, newest
first. -/
def texts (phone : String) (log : List Event) : List ℕ :=
  (log.filter fun event => textedPhone event.entry = some phone).map
    Event.call

/-- The windows that have begun since the service started. -/
def windowsBegun (clock now : Time) : ℕ :=
  ((now - clock) / rateWindow).toNat + 1

/-- The charges of a counter that the limiter allowed. -/
def allowedOn (key : RedisKey) (limit : ℕ) (log : List Event) :
    List (Charge × ℕ) :=
  ((counted log).filter (·.1.key = key)).filter (·.2 ≤ limit)

end Definitions

variable {cfg : AuthServiceConfig} {admissible : Pool → Label → Prop}
variable {clock : Time} {pool : Pool} {phone : String}

section Calls

/-- A code is sent for the phone that the call names, after its two counters,
and the call has sent none before. -/
theorem counted_of_sending {req : Request} {older : History}
    {recipient otp : String}
    (hguard : guard cfg req older (.sendOTP recipient otp)) :
    (∃ count ≤ otpRequestRateLimitPerPhone,
      (⟨.redisEval (.otpReqPhone (hashPhone cfg recipient))
        (wholeSeconds otpRateLimitWindow), .ok count⟩ : Entry) ∈ older) ∧
    ∀ entry ∈ older, textedPhone entry = none := by
  cases req with
  | requestOTP phone clientIP =>
      obtain ⟨rfl, issue, counted, -, ⟨count, response, hcount, rfl⟩, rfl⟩ :=
        hguard
      refine ⟨⟨count, hcount, ?_⟩, ?_⟩
      · simp [Issue.entries]
      · simp [Issue.entries, textedPhone]
  | _ => exact hguard.elim

theorem sending_of_textedPhone {entry : Entry}
    (htexted : textedPhone entry = some phone) :
    ∃ otp response, entry = ⟨.sendOTP phone otp, response⟩ := by
  unfold textedPhone at htexted
  split at htexted
  · next recipient otp response =>
      cases htexted
      exact ⟨otp, response, rfl⟩
  · cases htexted

/-- No call sends twice. -/
theorem texts_nodup
    (hreach : (machine cfg).Reach admissible (start clock) pool) :
    (texts phone pool.log).Nodup := by
  refine invariant (I := fun pool => (texts phone pool.log).Nodup) ?_ ?_ ?_ ?_
    hreach
  · exact List.nodup_nil
  · intro pool id req _ ih _ _ _
    exact ih
  · intro pool id choice call op next response after hpool ih hexec _ _
    rw [texts, Pool.execCall, List.filter_cons]
    split
    · next htexted =>
        rw [decide_eq_true_eq] at htexted
        obtain ⟨otp, sent, hentry⟩ := sending_of_textedPhone htexted
        cases hentry
        rw [List.map_cons, List.nodup_cons]
        refine ⟨fun hbefore => ?_, ih⟩
        obtain ⟨event, hevent, hid⟩ := List.mem_map.mp hbefore
        rw [List.mem_filter, decide_eq_true_eq] at hevent
        obtain ⟨found, hfound, hsuffix⟩ :=
          hpool.logSound.recorded event hevent.1
        dsimp only at hid
        rw [hid, hexec.lookup, Option.some.injEq] at hfound
        subst hfound
        have hnone := (counted_of_sending hexec.guarded).2 event.entry
          (hsuffix.subset List.mem_cons_self)
        rw [hevent.2] at hnone
        cases hnone
    · exact ih
  · intro pool change after _ ih _ _ _
    exact ih

/-- A call that has sent a code was allowed to by the limiter. -/
theorem texts_subset
    (hreach : (machine cfg).Reach admissible (start clock) pool) :
    texts phone pool.log ⊆
      (allowedOn (.otpReqPhone (hashPhone cfg phone))
        otpRequestRateLimitPerPhone pool.log).map (·.1.call) := by
  intro id hid
  obtain ⟨event, hevent, rfl⟩ := List.mem_map.mp hid
  rw [List.mem_filter, decide_eq_true_eq] at hevent
  obtain ⟨call, hcall, hsuffix, hguard⟩ :=
    hreach.event_guard (sat_program cfg) hevent.1
  obtain ⟨otp, response, hentry⟩ := sending_of_textedPhone hevent.2
  rw [hentry] at hguard
  obtain ⟨⟨count, hcount, hcounted⟩, -⟩ := counted_of_sending hguard
  obtain ⟨charge, hcharge, hsame, hperformed⟩ := hreach.event_of_mem hcall
    (hsuffix.subset (List.mem_cons_of_mem _ hcounted))
  refine List.mem_map.mpr ⟨(⟨charge.call, .otpReqPhone (hashPhone cfg phone),
    charge.before.clock⟩, count), ?_, hsame⟩
  simp only [allowedOn, List.mem_filter, decide_eq_true_eq]
  refine ⟨⟨List.mem_filterMap.mpr ⟨charge, hcharge, ?_⟩, trivial⟩, hcount⟩
  rw [chargeOf, hperformed]

end Calls

section Windows

/-- The limiter allows as many charges of a counter as its windows have
room. -/
theorem length_allowedOn_le (hcharged : Charged pool) (key : RedisKey)
    (limit : ℕ) :
    (allowedOn key limit pool.log).length ≤
      limit * (windows rateWindow (timesOn key (charges pool.log))).length := by
  have hbound := allowed_le rateWindow limit
    (timesOn key (charges pool.log))
  rw [← map_ranked, List.filter_map, List.length_map, ← hcharged.counts]
    at hbound
  exact hbound

/-- Charges come after the start of the service. -/
theorem clock_le_charge
    (hreach : (machine cfg).Reach admissible (start clock) pool)
    {charge : Charge} (hcharge : charge ∈ charges pool.log) :
    clock ≤ charge.time := by
  obtain ⟨⟨found, count⟩, hcounted, rfl⟩ := List.mem_map.mp hcharge
  obtain ⟨event, hevent, hfound⟩ := List.mem_filterMap.mp hcounted
  obtain ⟨newer, older, hlog⟩ := List.append_of_mem hevent
  obtain ⟨current, -, -, hcurrent, -, hstore, -⟩ := Reach.at_event hreach hlog
  have htime : found.time = event.before.clock := by
    unfold chargeOf at hfound
    split at hfound
    · cases hfound
      rfl
    · cases hfound
  change clock ≤ found.time
  rw [htime, ← hstore]
  exact clock_mono hcurrent

/-- No more windows are counted than have begun. -/
theorem length_windows_le
    (hreach : (machine cfg).Reach admissible (start clock) pool)
    (key : RedisKey) :
    (windows rateWindow (timesOn key (charges pool.log))).length ≤
      windowsBegun clock pool.store.clock := by
  have hcharged := charged hreach
  have htimes : ∀ time ∈ timesOn key (charges pool.log),
      clock ≤ time ∧ time ≤ pool.store.clock := by
    intro time htime
    obtain ⟨charge, hmem, rfl⟩ := List.mem_map.mp htime
    have hcharge := List.mem_of_mem_filter hmem
    exact ⟨clock_le_charge hreach hcharge, hcharged.bounded charge hcharge⟩
  cases hopening : opening rateWindow (timesOn key (charges pool.log)) with
  | none =>
      rw [opening_eq_none_iff.mp hopening]
      exact Nat.zero_le _
  | some opened =>
      have hspan := span_le (fun time htime => (htimes time htime).1) hopening
      have hopened := (htimes opened (opening_mem hopening)).2
      have hwindow : 0 < rateWindow := by decide
      generalize (windows rateWindow (timesOn key
        (charges pool.log))).length = count at hspan ⊢
      rw [nsmul_eq_mul] at hspan
      have hcount : (count : ℤ) - 1 ≤
          (pool.store.clock - clock) / rateWindow := by
        rw [Int.le_ediv_iff_mul_le hwindow, sub_mul, one_mul]
        linarith
      rw [windowsBegun]
      omega

end Windows

/-- A phone is sent at most `otpRequestRateLimitPerPhone` codes for each window
that has begun since the service started, whatever the interleaving of the
calls and whatever fails. -/
theorem texts_limited (cfg : AuthServiceConfig) (clock : Time) (pool : Pool)
    (hreach : (machine cfg).Reach anyStep (start clock) pool)
    (phone : String) :
    (texts phone pool.log).length ≤
      otpRequestRateLimitPerPhone * windowsBegun clock pool.store.clock := by
  calc (texts phone pool.log).length
      ≤ ((allowedOn (.otpReqPhone (hashPhone cfg phone))
          otpRequestRateLimitPerPhone pool.log).map (·.1.call)).length :=
        ((texts_nodup hreach).subperm (texts_subset hreach)).length_le
    _ = (allowedOn (.otpReqPhone (hashPhone cfg phone))
          otpRequestRateLimitPerPhone pool.log).length := List.length_map _
    _ ≤ otpRequestRateLimitPerPhone * (windows rateWindow (timesOn
          (.otpReqPhone (hashPhone cfg phone)) (charges pool.log))).length :=
        length_allowedOn_le (charged hreach) _ _
    _ ≤ otpRequestRateLimitPerPhone * windowsBegun clock pool.store.clock :=
        Nat.mul_le_mul_left _ (length_windows_le hreach _)

/-- A phone that registers with its first code, is sent a second one, and asks
twice more. -/
def askedAgain : Pool :=
  (machine (deployment [])).runTo anyStep (start evening)
    (registration ++
      serve 2 (.requestOTP Deployment.phone "203.0.113.7") (issuing 654321) ++
      serve 3 (.requestOTP Deployment.phone "203.0.113.7") (issuing 654321) ++
      serve 4 (.requestOTP Deployment.phone "203.0.113.7") [.ok])

theorem askedAgain_limited :
    texts Deployment.phone askedAgain.log = [2, 0] ∧
      windowsBegun evening askedAgain.store.clock = 1 ∧
      (texts Deployment.phone askedAgain.log).length ≤
        otpRequestRateLimitPerPhone * 1 := by
  have hrun : texts Deployment.phone askedAgain.log = [2, 0] ∧
      windowsBegun evening askedAgain.store.clock = 1 := by decide +kernel
  have hlimited := texts_limited (deployment []) evening askedAgain
    (Machine.reach_runTo _) Deployment.phone
  rw [hrun.2] at hlimited
  exact ⟨hrun.1, hrun.2, hlimited⟩

end MessagingPlatform.TextLimit
