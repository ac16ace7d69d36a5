import MessagingPlatform.System.Consumption
import MessagingPlatform.System.StoredCodes

/-!
# Codes that are consumed while they are good

A verification checks the expiry and the attempt count of the record it has
read, several requests before its transaction, whose condition looks at neither.
What the checks found still holds at the commit if, while a verification with
the right code is under way, time does not pass the expiry of its record once
it was checked, and no failed attempt exhausts the record once it was read: the
attempts that are checked are those of the record as it was read.
-/

namespace MessagingPlatform.CodeValidity

open Program
open Interleaving
open Instants
open Records
open Primitives
open Tables
open Operations
open Effects
open Transactions
open RequestRules
open VerifyRules
open Service
open ServiceRules
open MessagingPlatform.Runs
open Commits
open StoredCodes
open Consumption
open Deployment

section Definitions

variable (cfg : AuthServiceConfig)

/-- The records that a call can still consume: it is a verification under way
that has committed nothing, and its candidate has the MAC of the record it has
read. -/
def heldRecords (call : Call) : List (String × OTPItem) :=
  match call.req with
  | .verifyOTP phone otpCandidate _ =>
      if call.rest.finished ∨ call.history.any commits then []
      else
        ((call.history.filterMap (recordRead (hashPhone cfg phone))).filter
          fun item => verifyOTPMAC cfg otpCandidate (hashPhone cfg phone)
            item.expiresAt.render item.otpMAC).map (hashPhone cfg phone, ·)
  | _ => []

/-- The records that the calls of a pool can still consume. -/
def allHeld (pool : Pool) : List (String × OTPItem) :=
  pool.calls.entries.flatMap fun row => heldRecords cfg row.2

/-- A read of the clock.  The first of a verification is for its expiry
check. -/
def readsClock : Entry → Bool
  | ⟨.clockNow, _⟩ => true
  | _ => false

/-- The records among them whose expiry has been checked. -/
def allChecked (pool : Pool) : List (String × OTPItem) :=
  pool.calls.entries.flatMap fun row =>
    if row.2.history.any readsClock then heldRecords cfg row.2 else []

/-- The phone whose record an operation counts an attempt on. -/
def countsAttempt : Op → Option String
  | .otpUpdateItem phoneHash => some phoneHash
  | _ => none

/-- While a record is held, no failed attempt exhausts it, and time does not
pass its expiry once that was checked. -/
def KeepsHeld (pool : Pool) : Label → Prop
  | .env (.tick now) => ∀ held ∈ allChecked cfg pool,
      ∀ expiry ∈ parse held.2.expiresAt,
        pool.store.clock ≤ expiry → now ≤ expiry
  | .exec id _ => ∀ op ∈ pool.nextOp id, ∀ phoneHash ∈ countsAttempt op,
      ∀ item ∈ pool.store.otpRequests.lookup phoneHash,
        maxOTPVerifyAttempts ≤ item.attemptCount + 1 →
          ∀ held ∈ allHeld cfg pool,
            versionOf held.1 held.2 ≠ versionOf phoneHash item
  | _ => True

instance (pool : Pool) (label : Label) : Decidable (KeepsHeld cfg pool label) :=
  match label with
  | .start _ _ => isTrue trivial
  | .env (.replicateUser _) => isTrue trivial
  | .env (.replicateSession _) => isTrue trivial
  | .env (.tick _) => inferInstanceAs (Decidable (∀ _ ∈ allChecked cfg pool,
      ∀ _ ∈ parse _, _ → _))
  | .exec id _ => inferInstanceAs (Decidable (∀ _ ∈ pool.nextOp id,
      ∀ _ ∈ countsAttempt _, ∀ _ ∈ pool.store.otpRequests.lookup _,
        _ → ∀ _ ∈ allHeld cfg pool, _))

/-- The record of a phone is not expired and has attempts left. -/
def StillGood (store : Store) (phoneHash : String) : Prop :=
  ∃ item expiry, store.otpRequests.lookup phoneHash = some item ∧
    parse item.expiresAt = some expiry ∧ store.clock ≤ expiry ∧
    item.attemptCount < maxOTPVerifyAttempts

end Definitions

variable {cfg : AuthServiceConfig} {admissible : Pool → Label → Prop}
variable {clock : Time} {pool : Pool}

section Held

/-- What it is to hold a record. -/
structure Holds (cfg : AuthServiceConfig) (call : Call) (phoneHash : String)
    (item : OTPItem) : Prop where
  verifies : ∃ phone otpCandidate deviceID,
    call.req = .verifyOTP phone otpCandidate deviceID ∧
      phoneHash = hashPhone cfg phone ∧
      verifyOTPMAC cfg otpCandidate phoneHash item.expiresAt.render
        item.otpMAC = true
  unfinished : call.rest.finished = false
  uncommitted : Uncommitted call.history
  read : (⟨.otpGetItem phoneHash, .ok (some item)⟩ : Entry) ∈ call.history

theorem Holds.mem_heldRecords {call : Call} {phoneHash : String}
    {item : OTPItem} (hholds : Holds cfg call phoneHash item) :
    (phoneHash, item) ∈ heldRecords cfg call := by
  obtain ⟨phone, otpCandidate, deviceID, hreq, rfl, hmac⟩ := hholds.verifies
  have hopen : ¬ (call.rest.finished = true ∨
      call.history.any commits = true) := by
    rintro (hfinished | hcommitted)
    · rw [hholds.unfinished] at hfinished
      cases hfinished
    · obtain ⟨entry, hentry, hcommits⟩ := List.any_eq_true.mp hcommitted
      rw [hholds.uncommitted entry hentry] at hcommits
      cases hcommits
  have hread : item ∈ call.history.filterMap
      (recordRead (hashPhone cfg phone)) :=
    List.mem_filterMap.mpr ⟨_, hholds.read, by simp [recordRead]⟩
  simp only [heldRecords, hreq, if_neg hopen]
  exact List.mem_map.mpr ⟨item, List.mem_filter.mpr ⟨hread, hmac⟩, rfl⟩

theorem Holds.mem_allHeld {id : ℕ} {call : Call} {phoneHash : String}
    {item : OTPItem} (hcall : pool.calls.lookup id = some call)
    (hholds : Holds cfg call phoneHash item) :
    (phoneHash, item) ∈ allHeld cfg pool := by
  refine List.mem_flatMap.mpr ⟨⟨id, call⟩, ?_, hholds.mem_heldRecords⟩
  exact AList.mem_lookup_iff.mp hcall

theorem Holds.mem_allChecked {id : ℕ} {call : Call} {phoneHash : String}
    {item : OTPItem} {now : Time} (hcall : pool.calls.lookup id = some call)
    (hholds : Holds cfg call phoneHash item)
    (hread : (⟨.clockNow, now⟩ : Entry) ∈ call.history) :
    (phoneHash, item) ∈ allChecked cfg pool := by
  have hchecked : call.history.any readsClock = true :=
    List.any_eq_true.mpr ⟨_, hread, rfl⟩
  refine List.mem_flatMap.mpr ⟨⟨id, call⟩, AList.mem_lookup_iff.mp hcall, ?_⟩
  rw [if_pos hchecked]
  exact hholds.mem_heldRecords

variable {id : ℕ} {call : Call} {op : Op} {response : op.Res} {after : Store}
variable {next : op.Res → Prog Op Op.Res Outcome} {other : ℕ} {later : Call}
variable {phoneHash : String} {item : OTPItem}

/-- A record held after a request was held before it, unless the request is
the read. -/
theorem holds_before (hexec : Exec cfg pool id call op response after)
    (hlater : (pool.execCall id call op next response after).calls.lookup
      other = some later) (hholds : Holds cfg later phoneHash item) :
    (∃ earlier, pool.calls.lookup other = some earlier ∧
      Holds cfg earlier phoneHash item ∧
      (later.history = earlier.history ∨
        later.history = ⟨op, response⟩ :: earlier.history)) ∨
    (later.history = ⟨op, response⟩ :: call.history ∧
      (⟨op, response⟩ : Entry) = ⟨.otpGetItem phoneHash, .ok (some item)⟩ ∧
      call.req = later.req) := by
  rcases lookup_execCall hlater with ⟨rfl, hreq, hhistory⟩ | ⟨-, hold⟩
  · have hread := hholds.read
    rw [hhistory] at hread
    rcases List.mem_cons.mp hread with hnew | hearlier
    · exact Or.inr ⟨hhistory, hnew.symm, hreq.symm⟩
    · refine Or.inl ⟨call, hexec.lookup, ?_, Or.inr hhistory⟩
      have huncommitted := hholds.uncommitted
      rw [hhistory, uncommitted_cons] at huncommitted
      exact
        { verifies := hreq ▸ hholds.verifies
          unfinished := Pool.unfinished_of_nextOp hexec.lookup hexec.nextOp
          uncommitted := huncommitted.2
          read := hearlier }
  · exact Or.inl ⟨later, hold, hholds, Or.inl rfl⟩

/-- The read of a held record comes right after the limits. -/
theorem history_of_read (hexec : Exec cfg pool id call op response after)
    (hentry : (⟨op, response⟩ : Entry) =
      ⟨.otpGetItem phoneHash, .ok (some item)⟩)
    (hreq : call.req = later.req) (hholds : Holds cfg later phoneHash item) :
    ∃ count, call.history = limitEntries phoneHash count := by
  obtain ⟨phone, otpCandidate, deviceID, hverify, -, -⟩ := hholds.verifies
  cases hentry
  have hguard := hexec.guarded
  rw [hreq, hverify] at hguard
  obtain ⟨-, count, -, hhistory⟩ := hguard
  exact ⟨count, hhistory⟩

end Held

section Invariant

/-- What the checks of a verification found still holds while it holds the
record. -/
structure Kept (cfg : AuthServiceConfig) (pool : Pool) : Prop where
  unexpired : ∀ id call phoneHash item expiry now,
    pool.calls.lookup id = some call → Holds cfg call phoneHash item →
      parse item.expiresAt = some expiry →
      (⟨.clockNow, now⟩ : Entry) ∈ call.history → now ≤ expiry →
        pool.store.clock ≤ expiry
  attempts : ∀ id call phoneHash item stored,
    pool.calls.lookup id = some call → Holds cfg call phoneHash item →
      item.attemptCount < maxOTPVerifyAttempts →
      pool.store.otpRequests.lookup phoneHash = some stored →
      versionOf phoneHash stored = versionOf phoneHash item →
        stored.attemptCount < maxOTPVerifyAttempts

variable {id : ℕ} {call : Call} {op : Op} {response : op.Res} {after : Store}
variable {next : op.Res → Prog Op Op.Res Outcome} {choice : Choice}

theorem unexpired_of_exec (hkept : Kept cfg pool)
    (hexec : Exec cfg pool id call op response after) {other : ℕ}
    {later : Call} {phoneHash : String} {item : OTPItem} {expiry now : Time}
    (hlater : (pool.execCall id call op next response after).calls.lookup
      other = some later) (hholds : Holds cfg later phoneHash item)
    (hparse : parse item.expiresAt = some expiry)
    (hread : (⟨.clockNow, now⟩ : Entry) ∈ later.history)
    (hnow : now ≤ expiry) : after.clock ≤ expiry := by
  rw [hexec.effect.clock]
  rcases holds_before hexec hlater hholds with
    ⟨earlier, hearlier, hheld, hhistory⟩ | ⟨hhistory, hentry, hreq⟩
  · have hcases : (⟨.clockNow, now⟩ : Entry) = ⟨op, response⟩ ∨
        (⟨.clockNow, now⟩ : Entry) ∈ earlier.history := by
      rcases hhistory with hsame | hgrown
      · exact Or.inr (hsame ▸ hread)
      · exact List.mem_cons.mp (hgrown ▸ hread)
    rcases hcases with hnew | hold
    · cases hnew
      have hclock : now = pool.store.clock := hexec.answers
      exact hclock ▸ hnow
    · exact hkept.unexpired other earlier phoneHash item expiry now hearlier
        hheld hparse hold hnow
  · obtain ⟨count, hlimits⟩ := history_of_read hexec hentry hreq hholds
    rw [hhistory, hlimits, hentry] at hread
    simp [limitEntries] at hread

theorem attempts_of_exec (hkept : Kept cfg pool)
    (hexec : Exec cfg pool id call op response after)
    (hadmissible : KeepsHeld cfg pool (.exec id choice)) {other : ℕ}
    {later : Call} {phoneHash : String} {item stored : OTPItem}
    (hlater : (pool.execCall id call op next response after).calls.lookup
      other = some later) (hholds : Holds cfg later phoneHash item)
    (hattempts : item.attemptCount < maxOTPVerifyAttempts)
    (hstored : after.otpRequests.lookup phoneHash = some stored)
    (hversion : versionOf phoneHash stored = versionOf phoneHash item) :
    stored.attemptCount < maxOTPVerifyAttempts := by
  have hbefore := holds_before hexec hlater hholds
  have hchange := recordChange_of_effect phoneHash hexec.guarded hexec.effect
  rw [hstored] at hchange
  generalize hrecord : pool.store.otpRequests.lookup phoneHash = earlier
    at hchange
  cases hchange with
  | kept hkeeps =>
      rcases hbefore with ⟨call', hcall', hheld, -⟩ | ⟨-, hentry, -⟩
      · exact hkept.attempts other call' phoneHash item stored hcall' hheld
          hattempts hrecord hversion
      · cases hentry
        have hread : some item = pool.store.otpRequests.lookup phoneHash :=
          hexec.answers
        rw [← hread, Option.some.injEq] at hrecord
        exact hrecord ▸ hattempts
  | stored item now hreplaceable =>
      obtain ⟨phone, clientIP, issue, counted, -, -, rfl, -⟩ :=
        issue_of_put hexec.guarded
      exact Nat.zero_lt_succ 4
  | incremented old hold =>
      rcases hbefore with ⟨call', hcall', hheld, -⟩ | ⟨-, hentry, -⟩
      · by_contra hexhausted
        have hapart := hadmissible _ hexec.nextOp phoneHash rfl old
          (hrecord.trans hold) (not_lt.mp hexhausted) _
          (hheld.mem_allHeld hcall')
        exact hapart hversion.symm
      · cases hentry
  | consumed items old hold hpending =>
      rcases hbefore with ⟨call', hcall', hheld, -⟩ | ⟨-, hentry, -⟩
      · exact hkept.attempts other call' phoneHash item old hcall' hheld
          hattempts (hrecord.trans hold) hversion
      · cases hentry

theorem kept (hreach : (machine cfg).Reach (KeepsHeld cfg) (start clock) pool) :
    Kept cfg pool := by
  refine invariant (I := fun pool => Kept cfg pool) ?_ ?_ ?_ ?_ hreach
  · constructor
    · intro id call phoneHash item expiry now hcall
      simp [start, Pool.initial] at hcall
    · intro id call phoneHash item stored hcall
      simp [start, Pool.initial] at hcall
  · intro pool id req _ ih _ _ _
    constructor
    · intro other call phoneHash item expiry now hcall hholds hparse hread hnow
      rcases lookup_startCall hcall with ⟨-, hnil⟩ | hold
      · rw [hnil] at hread
        cases hread
      · exact ih.unexpired other call phoneHash item expiry now hold hholds
          hparse hread hnow
    · intro other call phoneHash item stored hcall hholds
      rcases lookup_startCall hcall with ⟨-, hnil⟩ | hold
      · have hread := hholds.read
        rw [hnil] at hread
        cases hread
      · exact ih.attempts other call phoneHash item stored hold hholds
  · intro pool id choice call op next response after _ ih hexec hadmissible _
    constructor
    · intro other later phoneHash item expiry now hlater
      exact unexpired_of_exec ih hexec hlater
    · intro other later phoneHash item stored hlater
      exact attempts_of_exec ih hexec hadmissible hlater
  · intro pool change after _ ih hadvance hadmissible _
    constructor
    · intro id call phoneHash item expiry now hcall hholds hparse hread hnow
      have hclock := ih.unexpired id call phoneHash item expiry now hcall
        hholds hparse hread hnow
      rcases clock_of_advance hadvance with htick | hsame
      · rw [htick] at hadmissible
        exact hadmissible _ (hholds.mem_allChecked hcall hread) expiry hparse
          hclock
      · exact hsame.le.trans hclock
    · intro id call phoneHash item stored hcall hholds hattempts hstored
      apply ih.attempts id call phoneHash item stored hcall hholds hattempts
      rw [← (framed_of_advance hadvance).otpRequests]
      exact hstored

/-- A verification that is about to commit holds the record it consumes. -/
theorem holds_of_commit {phone otpCandidate deviceID userID : String}
    {items : List TransactWriteItem} {tried : Attempt} {created : NewSession}
    {item : OTPItem} {base : History}
    (hreach : (machine cfg).Reach admissible (start clock) pool)
    (hexec : Exec cfg pool id call op response after)
    (hreq : call.req = .verifyOTP phone otpCandidate deviceID)
    (hcommit : Commit cfg phone otpCandidate deviceID call.history items
      pool.store after tried created userID item)
    (hbase : base <:+ call.history)
    (haccepted : Accepted (hashPhone cfg phone) otpCandidate tried base) :
    Holds cfg call (hashPhone cfg phone) tried.item := by
  have hcompared : tried.comparedEntries (hashPhone cfg phone) otpCandidate
      true ⊆ call.history := (haccepted.compared.trans hbase).subset
  have hmatched := matched_of_compared hreach hexec.lookup
    (hcompared List.mem_cons_self)
  exact
    { verifies := ⟨phone, otpCandidate, deviceID, hreq, rfl, hmatched.symm⟩
      unfinished := Pool.unfinished_of_nextOp hexec.lookup hexec.nextOp
      uncommitted := hcommit.proposal.uncommitted
      read := hcompared (by
        simp [Attempt.comparedEntries, Attempt.readEntries]) }

theorem stillGood_of_consumes {phoneHash : String}
    (hreach : (machine cfg).Reach (KeepsHeld cfg) (start clock) pool)
    (hexec : Exec cfg pool id call op response after)
    (hconsumes : Consumes phoneHash pool.store after) :
    StillGood pool.store phoneHash := by
  obtain ⟨phone, otpCandidate, deviceID, items, tried, created, userID, item,
    hreq, rfl, hcommit⟩ := commit_of_consumes hexec hconsumes
  obtain ⟨base, hbase, haccepted⟩ := hcommit.accepted
  have hholds := holds_of_commit hreach hexec hreq hcommit hbase haccepted
  obtain ⟨expiry, hparse, hnow⟩ := haccepted.usable.unexpired
  have hread : (⟨.clockNow, tried.now⟩ : Entry) ∈ call.history :=
    (haccepted.compared.trans hbase).subset (by simp [Attempt.comparedEntries])
  have hversion : versionOf (hashPhone cfg phone) item =
      versionOf (hashPhone cfg phone) tried.item := by
    simp [versionOf, hcommit.consumable.expiry, hcommit.consumable.mac]
  refine ⟨item, expiry, hcommit.consumable.stored, ?_, ?_, ?_⟩
  · rw [hcommit.consumable.expiry]
    exact hparse
  · exact (kept hreach).unexpired id call _ tried.item expiry tried.now
      hexec.lookup hholds hparse hread hnow
  · exact (kept hreach).attempts id call _ tried.item item hexec.lookup hholds
      haccepted.usable.attempts hcommit.consumable.stored hversion

end Invariant

/-- Codes are consumed while they are good, in every run in which no held
record expires or is exhausted. -/
theorem code_consumed_while_good (cfg : AuthServiceConfig) (clock : Time)
    (pool : Pool)
    (hreach : (machine cfg).Reach (KeepsHeld cfg) (start clock) pool) :
    ∀ event ∈ pool.log, ∀ phoneHash,
      Consumes phoneHash event.before event.after →
        StillGood event.before phoneHash := by
  refine invariant (I := fun pool => ∀ event ∈ pool.log, ∀ phoneHash,
    Consumes phoneHash event.before event.after →
      StillGood event.before phoneHash) ?_ ?_ ?_ ?_ hreach
  · intro event hevent
    cases hevent
  · intro pool id req _ ih _ _ _
    exact ih
  · intro pool id choice call op next response after hpool ih hexec _ _
    rw [Pool.execCall, List.forall_mem_cons]
    exact ⟨fun phoneHash hconsumes =>
      stillGood_of_consumes hpool hexec hconsumes, ih⟩
  · intro pool change after _ ih _ _ _
    exact ih

/-- A service in which a phone registers at the last second of its code. -/
def registeredInTime : Pool :=
  (machine (deployment [])).runTo (KeepsHeld (deployment [])) (start evening)
    (serve 0 (.requestOTP phone "203.0.113.7") (issuing 123456) ++
      [.env (.tick (evening + 290 * second))] ++
      serve 1 (.verifyOTP phone "123456" "device-a") accepting ++
      [.env (.tick (evening + 300 * second))] ++
      resume 1 (registering user session refreshA))

theorem registeredInTime_consumed_while_good :
    ∃ event ∈ registeredInTime.log,
      Consumes phoneDigest event.before event.after ∧
        StillGood event.before phoneDigest := by
  have hconsumed : ∃ event ∈ registeredInTime.log,
      Consumes phoneDigest event.before event.after := by decide +kernel
  obtain ⟨event, hevent, hconsumes⟩ := hconsumed
  exact ⟨event, hevent, hconsumes,
    code_consumed_while_good (deployment []) evening registeredInTime
      (Machine.reach_runTo _) event hevent phoneDigest hconsumes⟩

/-- A registration accepts its code in time and commits a hundred seconds after
the code has expired. -/
def registeredLate : Pool :=
  (machine (deployment [])).runTo withoutFaults (start evening)
    (serve 0 (.requestOTP phone "203.0.113.7") (issuing 123456) ++
      serve 1 (.verifyOTP phone "123456" "device-a") accepting ++
      [.env (.tick (evening + 400 * second))] ++
      resume 1 (registering user session refreshA))

theorem expired_code_consumed :
    (machine (deployment [])).Reach withoutFaults (start evening)
        registeredLate ∧
      ∃ event ∈ registeredLate.log,
        Consumes phoneDigest event.before event.after ∧
          ∃ item ∈ event.before.otpRequests.lookup phoneDigest,
            ∃ expiry ∈ parse item.expiresAt,
              expiry + 100 * second ≤ event.before.clock :=
  ⟨Machine.reach_runTo _, by decide +kernel⟩

end MessagingPlatform.CodeValidity
