import MessagingPlatform.System.Consumption

/-!
# The lockout after five failures

The fifth failure of a record exhausts it; the next verification that reads it
sets the lockout key for fifteen minutes.  Calls are served one after another.
Until fifteen minutes have passed since the failure, the record is still
exhausted or the key is set long enough, provided that no new code is stored in
the meantime while the key is not set.  Whether the exhausted record is still
there when a code is stored makes no difference to that condition.
-/

namespace MessagingPlatform.Lockout

open Program
open Interleaving
open MessagingPlatform.Sequential
open Instants
open Records
open Primitives
open Tables
open Operations
open Effects
open Transactions
open RequestRules
open VerifyRules
open Service
open ServiceRules
open MessagingPlatform.Runs
open Commits
open Consumption
open Deployment

section Definitions

/-- The instant of the fifth failed verification of the record of a phone. -/
def fifthFailure (phoneHash : String) (event : Event) : Option Time :=
  match event.entry with
  | ⟨.otpUpdateItem counted, .ok ()⟩ =>
      if counted = phoneHash ∧
          (event.before.otpRequests.lookup phoneHash).map
            OTPItem.attemptCount = some (maxOTPVerifyAttempts - 1) then
        some event.before.clock
      else none
  | _ => none

def failures (phoneHash : String) (log : List Event) : List Time :=
  log.filterMap (fifthFailure phoneHash)

/-- The record of a phone has no attempts left. -/
def exhausted (store : Store) (phoneHash : String) : Bool :=
  (store.otpRequests.lookup phoneHash).any fun item =>
    maxOTPVerifyAttempts ≤ item.attemptCount

/-- The phone that an operation stores a code for. -/
def storesFor (store : Store) : Op → Option String
  | .otpPutItem phoneHash _ now =>
      if otpReplaceable now (store.otpRequests.lookup phoneHash) then
        some phoneHash
      else none
  | _ => none

/-- A code is stored for a phone only while its lockout key is there or after
fifteen minutes have passed since every fifth failure of the phone. -/
def RespectsLockout (pool : Pool) (_ : ℕ) (op : Op) : Prop :=
  ∀ phoneHash ∈ storesFor pool.store op,
    (pool.store.liveEntry (.otpLockoutPhone phoneHash)).isSome = true ∨
      ∀ failed ∈ failures phoneHash pool.log,
        failed + otpLockoutDuration ≤ pool.store.clock

instance (pool : Pool) (id : ℕ) (op : Op) :
    Decidable (RespectsLockout pool id op) :=
  inferInstanceAs (Decidable (∀ _ ∈ storesFor pool.store op, _ ∨ _))

/-- Calls come one after another, and no code is stored during a lockout that
has no key. -/
def lockoutKept (pool : Pool) (label : Label) : Prop :=
  oneByOne pool label ∧ whenCalling RespectsLockout pool label

instance (pool : Pool) (label : Label) : Decidable (lockoutKept pool label) :=
  inferInstanceAs (Decidable (_ ∧ _))

end Definitions

variable {cfg : AuthServiceConfig} {admissible : Pool → Label → Prop}
variable {clock : Time} {pool : Pool} {phoneHash : String}

section Underway

/-- What the call under way has learnt about a phone still holds if it has not
changed it itself. -/
structure Learnt (phoneHash : String) (history : History) (store : Store) :
    Prop where
  unlocked : (⟨.redisExists (.otpLockoutPhone phoneHash), .ok false⟩ :
      Entry) ∈ history →
    (∀ entry ∈ history, writesKey (.otpLockoutPhone phoneHash) entry = false) →
      store.liveEntry (.otpLockoutPhone phoneHash) = none
  record : ∀ item,
    (⟨.otpGetItem phoneHash, .ok (some item)⟩ : Entry) ∈ history →
    (∀ entry ∈ history, writesRecord phoneHash entry = false) →
    Uncommitted history → store.otpRequests.lookup phoneHash = some item

theorem liveEntry_later {before after : Store} {key : RedisKey}
    (hredis : after.redis key = before.redis key)
    (hclock : before.clock ≤ after.clock)
    (hdead : before.liveEntry key = none) : after.liveEntry key = none := by
  rw [Store.liveEntry, Option.filter_eq_none_iff] at hdead ⊢
  intro entry hentry hlive
  apply hdead entry (hredis ▸ hentry)
  cases hdeadline : entry.deadline with
  | none => simp [RedisEntry.live, hdeadline]
  | some deadline =>
      simp only [RedisEntry.live, hdeadline, decide_eq_true_eq] at hlive ⊢
      exact hclock.trans_lt hlive

variable {id : ℕ} {call : Call} {op : Op} {response : op.Res} {after : Store}

theorem learnt_of_exec (hexec : Exec cfg pool id call op response after)
    (hlearnt : Learnt phoneHash call.history pool.store) :
    Learnt phoneHash (⟨op, response⟩ :: call.history) after := by
  constructor
  · intro hchecked hunwritten
    rw [List.forall_mem_cons] at hunwritten
    obtain ⟨hkeeps, hearlier⟩ := hunwritten
    have hredis : after.redis (.otpLockoutPhone phoneHash) =
        pool.store.redis (.otpLockoutPhone phoneHash) := by
      have hchange := hexec.effect.keyChange (.otpLockoutPhone phoneHash)
      generalize after.redis (.otpLockoutPhone phoneHash) = entry at hchange
      cases hchange with
      | kept => rfl
      | counted | set => simp [writesKey] at hkeeps
    apply liveEntry_later hredis hexec.effect.clock.ge
    rcases List.mem_cons.mp hchecked with hnew | hold
    · cases hnew
      have hanswer : false = (pool.store.liveEntry
        (.otpLockoutPhone phoneHash)).isSome := hexec.answers
      exact Option.not_isSome_iff_eq_none.mp (by simp [← hanswer])
    · exact hlearnt.unlocked hold hearlier
  · intro item hread hunwritten huncommitted
    rw [List.forall_mem_cons] at hunwritten
    rw [uncommitted_cons] at huncommitted
    have hchange := recordChange_of_effect phoneHash hexec.guarded hexec.effect
    have hsame : after.otpRequests.lookup phoneHash =
        pool.store.otpRequests.lookup phoneHash := by
      generalize after.otpRequests.lookup phoneHash = record at hchange
      cases hchange with
      | kept => rfl
      | stored | incremented => simp [writesRecord] at hunwritten
      | consumed items old hold hpending => cases huncommitted.1
    rw [hsame]
    rcases List.mem_cons.mp hread with hnew | hold
    · cases hnew
      exact Eq.symm hexec.answers
    · exact hlearnt.record item hold hunwritten.2 huncommitted.2

theorem learnt
    (honeByOne : ∀ current label,
      admissible current label → oneByOne current label)
    (hreach : (machine cfg).Reach admissible (start clock) pool)
    (hcall : pool.calls.lookup id = some call)
    (hunfinished : call.rest.finished = false) (phoneHash : String) :
    Learnt phoneHash call.history pool.store := by
  have hbase : (machine cfg).Reach admissible (start clock) (start clock) :=
    .refl
  refine underway (J := fun _ history store => Learnt phoneHash history store)
    hbase rfl honeByOne ?_ ?_ ?_ hreach hcall hunfinished
  · intro pool req _
    constructor
    · intro hchecked
      cases hchecked
    · intro item hread
      cases hread
  · intro pool id choice call op response after _ hexec _ hlearnt
    exact learnt_of_exec hexec hlearnt
  · intro before after req history hframed hlearnt
    constructor
    · intro hchecked hunwritten
      exact liveEntry_later (congrFun hframed.redis _) hframed.clock
        (hlearnt.unlocked hchecked hunwritten)
    · intro item hread hunwritten huncommitted
      rw [hframed.otpRequests]
      exact hlearnt.record item hread hunwritten huncommitted

end Underway

section Invariant

/-- A verification that consumes the record of a phone comes fifteen minutes
after the failure before it. -/
def Spaced (phoneHash : String) (later earlier : Event) : Prop :=
  ∀ failed, fifthFailure phoneHash earlier = some failed →
    Consumes phoneHash later.before later.after →
      failed + otpLockoutDuration ≤ later.before.clock

/-- A failure from which fifteen minutes have passed, or will have passed
before the record can be verified again. -/
def Secured (phoneHash : String) (store : Store) (failed : Time) : Prop :=
  failed + otpLockoutDuration ≤ store.clock ∨
    exhausted store phoneHash = true ∨
    ∃ entry deadline,
      store.redis (.otpLockoutPhone phoneHash) = some entry ∧
        entry.deadline = some deadline ∧
        failed + otpLockoutDuration ≤ deadline

structure Locked (phoneHash : String) (pool : Pool) : Prop where
  past : ∀ failed ∈ failures phoneHash pool.log, failed ≤ pool.store.clock
  secured : ∀ failed ∈ failures phoneHash pool.log,
    Secured phoneHash pool.store failed
  live : ∀ failed ∈ failures phoneHash pool.log, ∀ entry,
    pool.store.liveEntry (.otpLockoutPhone phoneHash) = some entry →
      ∃ deadline, entry.deadline = some deadline ∧
        failed + otpLockoutDuration ≤ deadline
  spaced : pool.log.Pairwise (Spaced phoneHash)

variable {id : ℕ} {call : Call} {op : Op} {response : op.Res} {after : Store}

/-- The lockout key is no counter. -/
theorem lockoutKey_ne_of_redisEval {req : Request} {older : History}
    {key : RedisKey} {windowSeconds : ℕ}
    (hguard : guard cfg req older (.redisEval key windowSeconds)) :
    key ≠ .otpLockoutPhone phoneHash := by
  cases req with
  | requestOTP phone clientIP =>
      rcases hguard.2 with ⟨rfl, -⟩ | rfl
      · exact RedisKey.noConfusion
      · exact RedisKey.noConfusion
  | verifyOTP phone otpCandidate deviceID =>
      obtain ⟨rfl, -⟩ := hguard
      exact RedisKey.noConfusion
  | refreshTokens | logout => exact hguard.elim

/-- The lockout key is set for fifteen minutes. -/
theorem ttl_of_lockout {req : Request} {older : History} {ttlSeconds : ℕ}
    (hguard : guard cfg req older
      (.redisSet (.otpLockoutPhone phoneHash) ttlSeconds)) :
    ttlSeconds = wholeSeconds otpLockoutDuration := by
  cases req with
  | requestOTP phone clientIP => exact hguard.elim
  | verifyOTP phone otpCandidate deviceID =>
      rcases hguard with ⟨-, httl, -⟩ | ⟨login, done, session, rest, hkey, -⟩
      · exact httl
      · cases hkey
  | refreshTokens accessToken refreshToken deviceID =>
      obtain ⟨look, cause, -, hkey, -⟩ := hguard
      cases hkey
  | logout accessToken =>
      obtain ⟨now, claims, cause, -, hkey, -⟩ := hguard
      cases hkey

/-- The lockout key is left alone, or set by a request that leaves the record
alone. -/
theorem lockoutKey_of_exec (phoneHash : String)
    (hexec : Exec cfg pool id call op response after) :
    after.redis (.otpLockoutPhone phoneHash) =
        pool.store.redis (.otpLockoutPhone phoneHash) ∨
      after.redis (.otpLockoutPhone phoneHash) =
        some ⟨1, some (pool.store.clock + otpLockoutDuration)⟩ := by
  have hchange := hexec.effect.keyChange (.otpLockoutPhone phoneHash)
  generalize after.redis (.otpLockoutPhone phoneHash) = entry at hchange
  cases hchange with
  | kept hkeeps => exact Or.inl rfl
  | counted windowSeconds =>
      exact absurd rfl (lockoutKey_ne_of_redisEval hexec.guarded)
  | set ttlSeconds =>
      rw [ttl_of_lockout hexec.guarded]
      exact Or.inr rfl

theorem fifthFailure_eq_some {event : Event} {failed : Time}
    (hfifth : fifthFailure phoneHash event = some failed) :
    event.entry = ⟨.otpUpdateItem phoneHash, .ok ()⟩ ∧
      failed = event.before.clock ∧
      ∃ item, event.before.otpRequests.lookup phoneHash = some item ∧
        item.attemptCount = maxOTPVerifyAttempts - 1 := by
  unfold fifthFailure at hfifth
  split at hfifth
  · next counted hentry =>
      split at hfifth
      · next hfour =>
          cases hfifth
          obtain ⟨rfl, hcount⟩ := hfour
          obtain ⟨item, hitem, hattempts⟩ := Option.map_eq_some_iff.mp hcount
          exact ⟨hentry, rfl, item, hitem, hattempts⟩
      · cases hfifth
  · cases hfifth

/-- A fifth failure leaves the record exhausted, at a moment when the phone is
not locked out. -/
theorem fifth_of_exec {failed : Time}
    (hexec : Exec cfg pool id call op response after)
    (hlearnt : Learnt phoneHash call.history pool.store)
    (hfifth : fifthFailure phoneHash
      ⟨id, call.history, ⟨op, response⟩, pool.store, after⟩ = some failed) :
    failed = pool.store.clock ∧ exhausted after phoneHash = true ∧
      pool.store.liveEntry (.otpLockoutPhone phoneHash) = none := by
  obtain ⟨hentry, hfailed, item, hitem, hattempts⟩ :=
    fifthFailure_eq_some hfifth
  dsimp only at hentry hfailed hitem
  cases hentry
  refine ⟨hfailed, ?_, ?_⟩
  · have hchange := recordChange_of_effect phoneHash hexec.guarded hexec.effect
    rw [hitem] at hchange
    generalize hafter : after.otpRequests.lookup phoneHash = record at hchange
    cases hchange with
    | kept hkeeps => simp [writesRecord] at hkeeps
    | incremented old hold =>
        cases hold
        simp [exhausted, hafter, hattempts, maxOTPVerifyAttempts]
  · obtain ⟨tried, hhistory⟩ : ∃ tried : Attempt,
        ∃ otpCandidate, call.history =
          tried.comparedEntries phoneHash otpCandidate false := by
      have hguard := hexec.guarded
      cases hreq : call.req with
      | verifyOTP phone otpCandidate deviceID =>
          rw [hreq] at hguard
          obtain ⟨-, tried, -, hhistory⟩ := hguard
          exact ⟨tried, otpCandidate, hhistory⟩
      | _ => exact (hreq ▸ hguard).elim
    obtain ⟨otpCandidate, hhistory⟩ := hhistory
    apply hlearnt.unlocked
    · simp [hhistory, Attempt.comparedEntries, Attempt.readEntries,
        limitEntries]
    · simp [hhistory, Attempt.comparedEntries, Attempt.readEntries,
        limitEntries, writesKey]

/-- A verification that consumes the record finds it with attempts left and
the phone not locked out. -/
theorem open_of_consumes
    (hreach : (machine cfg).Reach admissible (start clock) pool)
    (hexec : Exec cfg pool id call op response after)
    (hlearnt : Learnt phoneHash call.history pool.store)
    (hconsumes : Consumes phoneHash pool.store after) :
    exhausted pool.store phoneHash = false ∧
      pool.store.liveEntry (.otpLockoutPhone phoneHash) = none := by
  obtain ⟨phone, otpCandidate, deviceID, items, tried, created, userID, item,
    hreq, rfl, hcommit⟩ := commit_of_consumes hexec hconsumes
  obtain ⟨base, hbase, haccepted⟩ := hcommit.accepted
  have hcompared := haccepted.compared.trans hbase
  have hconforms := (hreach.wellGuarded (sat_program cfg) hexec.lookup).1
  rw [hreq] at hconforms
  have hcalm := calm_of_accepted hconforms hcompared (hashPhone cfg phone)
  have hrecord := hlearnt.record tried.item
    (hcompared.subset (by simp [Attempt.comparedEntries, Attempt.readEntries]))
    (fun entry hentry => (hcalm entry hentry).1) hcommit.proposal.uncommitted
  constructor
  · simpa [exhausted, hrecord] using haccepted.usable.attempts
  · apply hlearnt.unlocked
    · exact hcompared.subset (by
        simp [Attempt.comparedEntries, Attempt.readEntries, limitEntries])
    · exact fun entry hentry => (hcalm entry hentry).2

/-- A key that is not live has reached its deadline. -/
theorem deadline_le_of_dead {store : Store} {key : RedisKey}
    {entry : RedisEntry} {deadline : Time}
    (hdead : store.liveEntry key = none) (hentry : store.redis key = some entry)
    (hdeadline : entry.deadline = some deadline) : deadline ≤ store.clock := by
  rw [Store.liveEntry, Option.filter_eq_none_iff] at hdead
  simpa [RedisEntry.live, hdeadline] using hdead entry hentry

/-- A failure is over when the record can be consumed again. -/
theorem over_of_open {store : Store} {failed : Time}
    (hsecured : Secured phoneHash store failed)
    (hfresh : exhausted store phoneHash = false)
    (hdead : store.liveEntry (.otpLockoutPhone phoneHash) = none) :
    failed + otpLockoutDuration ≤ store.clock := by
  rcases hsecured with hpast | hexhausted |
    ⟨entry, deadline, hentry, hdeadline, hlong⟩
  · exact hpast
  · rw [hfresh] at hexhausted
    cases hexhausted
  · exact hlong.trans (deadline_le_of_dead hdead hentry hdeadline)

/-- Failures stay secured. -/
theorem secured_of_exec {failed : Time} (hlocked : Locked phoneHash pool)
    (hexec : Exec cfg pool id call op response after)
    (hkeeps : RespectsLockout pool id op)
    (hfailed : failed ∈ failures phoneHash pool.log) :
    Secured phoneHash after failed := by
  rcases lockoutKey_of_exec phoneHash hexec with hsame | hset
  · rcases hlocked.secured failed hfailed with hpast | hexhausted |
      ⟨entry, deadline, hentry, hlong⟩
    · exact Or.inl (hexec.effect.clock ▸ hpast)
    · have hchange :=
        recordChange_of_effect phoneHash hexec.guarded hexec.effect
      generalize hafter : after.otpRequests.lookup phoneHash = record
        at hchange
      cases hchange with
      | kept =>
          right; left
          rw [exhausted, hafter]
          exact hexhausted
      | stored item now hreplaceable =>
          have hstores : storesFor pool.store
              (.otpPutItem phoneHash item now) = some phoneHash := by
            simp [storesFor, hreplaceable]
          rcases hkeeps phoneHash hstores with hlive | hover
          · obtain ⟨entry, hentry⟩ := Option.isSome_iff_exists.mp hlive
            obtain ⟨deadline, hlong⟩ :=
              hlocked.live failed hfailed entry hentry
            have hstored := (Option.filter_eq_some_iff.mp hentry).1
            exact Or.inr (Or.inr ⟨entry, deadline, hsame.trans hstored, hlong⟩)
          · exact Or.inl (hexec.effect.clock ▸ hover failed hfailed)
      | incremented old hold =>
          right; left
          simp only [exhausted, hold, hafter, Option.any_some,
            decide_eq_true_eq] at hexhausted ⊢
          exact hexhausted.trans (Nat.le_succ _)
      | consumed items old hold hpending =>
          right; left
          simp only [exhausted, hold, hafter, Option.any_some] at hexhausted ⊢
          exact hexhausted
    · exact Or.inr (Or.inr ⟨entry, deadline, hsame.trans hentry, hlong⟩)
  · have hpast := hlocked.past failed hfailed
    exact Or.inr (Or.inr ⟨_, _, hset, rfl, by gcongr⟩)

/-- A lockout key that is live lasts long enough for every failure. -/
theorem live_of_exec {failed : Time} {entry : RedisEntry}
    (hlocked : Locked phoneHash pool)
    (hexec : Exec cfg pool id call op response after)
    (hpast : failed ≤ pool.store.clock)
    (hfailed : failed ∈ failures phoneHash pool.log ∨
      pool.store.liveEntry (.otpLockoutPhone phoneHash) = none)
    (hlive : after.liveEntry (.otpLockoutPhone phoneHash) = some entry) :
    ∃ deadline, entry.deadline = some deadline ∧
      failed + otpLockoutDuration ≤ deadline := by
  rcases lockoutKey_of_exec phoneHash hexec with hsame | hset
  · have hbefore : pool.store.liveEntry (.otpLockoutPhone phoneHash) =
        some entry := by
      rw [Store.liveEntry, hsame, hexec.effect.clock] at hlive
      exact hlive
    rcases hfailed with hold | hdead
    · exact hlocked.live failed hold entry hbefore
    · rw [hdead] at hbefore
      cases hbefore
  · have hentry := (Option.filter_eq_some_iff.mp hlive).1
    rw [hset, Option.some.injEq] at hentry
    rw [← hentry]
    exact ⟨_, rfl, by gcongr⟩

theorem locked_of_exec {next : op.Res → Prog Op Op.Res Outcome}
    (hreach : (machine cfg).Reach admissible (start clock) pool)
    (hlocked : Locked phoneHash pool)
    (hexec : Exec cfg pool id call op response after)
    (hlearnt : Learnt phoneHash call.history pool.store)
    (hkeeps : RespectsLockout pool id op) :
    Locked phoneHash (pool.execCall id call op next response after) := by
  have hclock : after.clock = pool.store.clock := hexec.effect.clock
  have hcases : ∀ failed ∈ failures phoneHash
      (pool.execCall id call op next response after).log,
      fifthFailure phoneHash
        ⟨id, call.history, ⟨op, response⟩, pool.store, after⟩ = some failed ∨
      failed ∈ failures phoneHash pool.log := by
    intro failed hfailed
    obtain ⟨event, hevent, hfifth⟩ := List.mem_filterMap.mp hfailed
    rcases List.mem_cons.mp hevent with rfl | hold
    · exact Or.inl hfifth
    · exact Or.inr (List.mem_filterMap.mpr ⟨event, hold, hfifth⟩)
  constructor
  · intro failed hfailed
    change failed ≤ after.clock
    rw [hclock]
    rcases hcases failed hfailed with hnew | hold
    · exact (fifth_of_exec hexec hlearnt hnew).1.le
    · exact hlocked.past failed hold
  · intro failed hfailed
    rcases hcases failed hfailed with hnew | hold
    · exact Or.inr (Or.inl (fifth_of_exec hexec hlearnt hnew).2.1)
    · exact secured_of_exec hlocked hexec hkeeps hold
  · intro failed hfailed entry hlive
    rcases hcases failed hfailed with hnew | hold
    · obtain ⟨hnow, -, hdead⟩ := fifth_of_exec hexec hlearnt hnew
      exact live_of_exec hlocked hexec hnow.le (Or.inr hdead) hlive
    · exact live_of_exec hlocked hexec (hlocked.past failed hold)
        (Or.inl hold) hlive
  · refine List.pairwise_cons.mpr ⟨?_, hlocked.spaced⟩
    intro earlier hearlier failed hfifth hconsumes
    obtain ⟨hfresh, hdead⟩ := open_of_consumes hreach hexec hlearnt hconsumes
    exact over_of_open
      (hlocked.secured failed (List.mem_filterMap.mpr ⟨_, hearlier, hfifth⟩))
      hfresh hdead

theorem secured_later {before after : Store} {failed : Time}
    (hframed : Framed before after)
    (hsecured : Secured phoneHash before failed) :
    Secured phoneHash after failed := by
  rcases hsecured with hpast | hexhausted | ⟨entry, deadline, hentry, hlong⟩
  · exact Or.inl (hpast.trans hframed.clock)
  · right; left
    rw [exhausted, hframed.otpRequests]
    exact hexhausted
  · right; right
    rw [hframed.redis]
    exact ⟨entry, deadline, hentry, hlong⟩

theorem live_before {before after : Store} {key : RedisKey}
    {entry : RedisEntry} (hframed : Framed before after)
    (hlive : after.liveEntry key = some entry) :
    before.liveEntry key = some entry := by
  cases hbefore : before.liveEntry key with
  | none =>
      rw [liveEntry_later (congrFun hframed.redis key) hframed.clock hbefore]
        at hlive
      cases hlive
  | some found =>
      have hfound := (Option.filter_eq_some_iff.mp hbefore).1
      have hentry := (Option.filter_eq_some_iff.mp hlive).1
      rw [hframed.redis, hfound] at hentry
      exact hentry

theorem locked (phoneHash : String)
    (hreach : (machine cfg).Reach lockoutKept (start clock) pool) :
    Locked phoneHash pool := by
  refine invariant (I := fun pool => Locked phoneHash pool) ?_ ?_ ?_ ?_ hreach
  · refine ⟨?_, ?_, ?_, List.Pairwise.nil⟩ <;>
    · intro failed hfailed
      cases hfailed
  · intro pool id req _ ih _ _ _
    exact ⟨ih.past, ih.secured, ih.live, ih.spaced⟩
  · intro pool id choice call op next response after hpool ih hexec
      hadmissible _
    have hunfinished := Pool.unfinished_of_nextOp hexec.lookup hexec.nextOp
    have hlearnt := learnt (fun _ _ hkept => hkept.1) hpool hexec.lookup
      hunfinished phoneHash
    exact locked_of_exec hpool ih hexec hlearnt
      (hadmissible.2 op hexec.nextOp)
  · intro pool change after _ ih hadvance _ _
    have hframed := framed_of_advance hadvance
    refine ⟨?_, ?_, ?_, ih.spaced⟩
    · intro failed hfailed
      exact (ih.past failed hfailed).trans hframed.clock
    · intro failed hfailed
      exact secured_later hframed (ih.secured failed hfailed)
    · intro failed hfailed entry hlive
      exact ih.live failed hfailed entry (live_before hframed hlive)

end Invariant

/-- Lockout lasts its full length, when calls come one after another and no
code is stored in the meantime while the lockout key is not there: a call that
verifies a phone after a fifth failure returns success fifteen minutes after it
or later. -/
theorem lockout_lasts (cfg : AuthServiceConfig) (clock : Time) (pool : Pool)
    (hreach : (machine cfg).Reach lockoutKept (start clock) pool)
    (newer older : List Event) (failure : Event) (phone : String)
    (failed : Time) (hlog : pool.log = newer ++ failure :: older)
    (hfailure : fifthFailure (hashPhone cfg phone) failure = some failed)
    (id : ℕ) (call : Call) (otpCandidate deviceID : String)
    (hcall : pool.calls.lookup id = some call)
    (hreq : call.req = .verifyOTP phone otpCandidate deviceID)
    (hafter : ∀ event ∈ failure :: older, event.call ≠ id)
    (hsuccess : (verifiedSession call).isSome = true) :
    failed + otpLockoutDuration ≤ pool.store.clock := by
  obtain ⟨event, hevent, hid, -, items, tried, created, userID, item,
    hcommit⟩ := commit_of_verified hreach hcall hreq hsuccess
  have hconsumes : Consumes (hashPhone cfg phone) event.before event.after :=
    (consumes_iff_of_commit hcommit).mpr rfl
  have hnewer : event ∈ newer := by
    rw [hlog, List.mem_append] at hevent
    exact hevent.resolve_right fun hold => hafter event hold hid
  have hspaced := (locked (hashPhone cfg phone) hreach).spaced
  rw [hlog, List.pairwise_append] at hspaced
  calc
    failed + otpLockoutDuration ≤ event.before.clock :=
      hspaced.2.2 event hnewer failure List.mem_cons_self failed hfailure
        hconsumes
    _ ≤ pool.store.clock := event_le_clock hreach hevent

/-- A wrong guess that is counted on the record. -/
def failing (id : ℕ) (otpCandidate : String) : List Label :=
  serve id (.verifyOTP phone otpCandidate "device-a")
    [.ok, .ok, .ok, .ok, .ok, .ok]

/-- A phone requests a code and fails to guess it five times, the last time
after 290 seconds. -/
def fiveFailures : List Label :=
  serve 0 (.requestOTP phone "203.0.113.7") (issuing 123456) ++
    failing 1 "000001" ++ failing 2 "000002" ++ failing 3 "000003" ++
    failing 4 "000004" ++ [.env (.tick (evening + 290 * second))] ++
    failing 5 "000005"

/-- A phone requests another code at some instant and registers with it at
another. -/
def registeringAt (requested verified : Time) : List Label :=
  [.env (.tick requested)] ++
    serve 6 (.requestOTP phone "203.0.113.7") (issuing 654321) ++
    [.env (.tick verified)] ++
    serve 7 (.verifyOTP phone "654321" "device-a")
      (accepting ++ registering user session refreshA ++
        minting "33333333-3333-4333-8333-333333333333")

/-- The service of a phone that waits for twenty minutes. -/
def waited : Pool :=
  (machine (deployment [])).runTo lockoutKept (start evening)
    (fiveFailures ++
      registeringAt (evening + 1200 * second) (evening + 1200 * second))

/-- The service of a phone that requests a code after the first one has expired
and verifies it when the window of its failures is over. -/
def hurried : Pool :=
  (machine (deployment [])).runTo orderly (start evening)
    (fiveFailures ++
      registeringAt (evening + 895 * second) (evening + 900 * second))

theorem split_of_drop {log : List Event} {position : ℕ} {failed : Time}
    (hfifth : (log.drop position).head?.bind (fifthFailure phoneHash) =
      some failed) :
    ∃ failure older, log = log.take position ++ failure :: older ∧
      log.drop position = failure :: older ∧
      fifthFailure phoneHash failure = some failed := by
  obtain ⟨failure, hhead, hfailure⟩ := Option.bind_eq_some_iff.mp hfifth
  obtain ⟨older, hdrop⟩ := List.head?_eq_some_iff.mp hhead
  refine ⟨failure, older, ?_, hdrop, hfailure⟩
  rw [← hdrop, List.take_append_drop]

theorem waited_locked_out :
    (∃ call ∈ waited.calls.lookup 7,
      (verifiedSession call).isSome = true) ∧
      (evening + 290 * second) + otpLockoutDuration ≤ waited.store.clock := by
  have hrun : (waited.log.drop 22).head?.bind (fifthFailure phoneDigest) =
        some (evening + 290 * second) ∧
      (∀ event ∈ waited.log.drop 22, event.call ≠ 7) ∧
      ∃ call ∈ waited.calls.lookup 7,
        call.req = .verifyOTP Deployment.phone "654321" "device-a" ∧
          (verifiedSession call).isSome = true := by decide +kernel
  obtain ⟨hfifth, hafter, call, hcall, hreq, hsuccess⟩ := hrun
  obtain ⟨failure, older, hlog, hdrop, hfailure⟩ := split_of_drop hfifth
  refine ⟨⟨call, hcall, hsuccess⟩, ?_⟩
  exact lockout_lasts (deployment []) evening waited (Machine.reach_runTo _)
    _ older failure Deployment.phone _ hlog hfailure 7 call "654321" "device-a"
    hcall hreq (hdrop ▸ hafter) hsuccess

/-- A phone is verified ten minutes after the fifth failure. -/
theorem verified_during_lockout :
    (machine (deployment [])).Reach orderly (start evening) hurried ∧
      ∃ newer failure older, hurried.log = newer ++ failure :: older ∧
        fifthFailure phoneDigest failure = some (evening + 290 * second) ∧
        (∀ event ∈ failure :: older, event.call ≠ 7) ∧
        (∃ call ∈ hurried.calls.lookup 7,
          call.req = .verifyOTP Deployment.phone "654321" "device-a" ∧
            (verifiedSession call).isSome = true) ∧
        hurried.store.clock <
          (evening + 290 * second) + otpLockoutDuration := by
  have hrun : (hurried.log.drop 22).head?.bind (fifthFailure phoneDigest) =
        some (evening + 290 * second) ∧
      (∀ event ∈ hurried.log.drop 22, event.call ≠ 7) ∧
      (∃ call ∈ hurried.calls.lookup 7,
        call.req = .verifyOTP Deployment.phone "654321" "device-a" ∧
          (verifiedSession call).isSome = true) ∧
      hurried.store.clock < (evening + 290 * second) + otpLockoutDuration := by
    decide +kernel
  obtain ⟨hfifth, hafter, hverified⟩ := hrun
  obtain ⟨failure, older, hlog, hdrop, hfailure⟩ := split_of_drop hfifth
  exact ⟨Machine.reach_runTo _, _, failure, older, hlog, hfailure,
    hdrop ▸ hafter, hverified⟩

end MessagingPlatform.Lockout
