import MessagingPlatform.System.Commits

/-!
# The verification counter

`CheckAndIncrement` counts the verifications of a phone in windows of fifteen
minutes.  A window begins when the counter returns 1; the counts of one window
are all different, so at most five verifications of a window get past it.
-/

namespace MessagingPlatform.VerifyWindows

open Program
open Interleaving
open Instants
open Primitives
open Tables
open Operations
open Effects
open Freshness
open VerifyRules
open Service
open ServiceRules
open MessagingPlatform.Runs

/-- The count that a request for a verification of the phone got. -/
def countedAs (phoneHash : String) : Entry → Option ℕ
  | ⟨.redisEval (.otpVerifyPhone counted) _, .ok count⟩ =>
      if counted = phoneHash then some count else none
  | _ => none

/-- How many windows have begun. -/
def windows (phoneHash : String) (log : List Event) : ℕ :=
  log.countP fun event => countedAs phoneHash event.entry == some 1

/-- A counted verification: the call, the window it fell into and its count
there. -/
structure Ticket where
  call : ℕ
  window : ℕ
  count : ℕ
  deriving DecidableEq, Repr

def tickets (phoneHash : String) : List Event → List Ticket :=
  annotated fun event older =>
    (countedAs phoneHash event.entry).map fun count =>
      ⟨event.call, windows phoneHash (event :: older), count⟩

theorem tickets_cons (phoneHash : String) (event : Event)
    (log : List Event) :
    tickets phoneHash (event :: log) =
      ((countedAs phoneHash event.entry).map fun count =>
        Ticket.mk event.call (windows phoneHash (event :: log)) count).toList ++
        tickets phoneHash log := rfl

variable {cfg : AuthServiceConfig} {admissible : Pool → Label → Prop}
variable {clock : Time} {pool : Pool} {phoneHash : String}

section Counter

variable {req : Request} {older : History} {op : Op} {response : op.Res}
variable {before after : Store}

/-- Keys are set for lockouts and revocations only. -/
theorem key_of_redisSet {key : RedisKey} {ttlSeconds : ℕ}
    (hguard : guard cfg req older (.redisSet key ttlSeconds)) :
    (∃ locked, key = .otpLockoutPhone locked) ∨
      ∃ jti, key = .revokedJTI jti := by
  cases req with
  | requestOTP phone clientIP => exact hguard.elim
  | verifyOTP phone otpCandidate deviceID =>
      rcases hguard with ⟨hkey, -⟩ | ⟨login, done, session, rest, hkey, -⟩
      · exact Or.inl ⟨_, hkey⟩
      · exact Or.inr ⟨_, hkey⟩
  | refreshTokens accessToken refreshToken deviceID =>
      obtain ⟨look, cause, -, hkey, -⟩ := hguard
      exact Or.inr ⟨_, hkey⟩
  | logout accessToken =>
      obtain ⟨now, claims, cause, -, hkey, -⟩ := hguard
      exact Or.inr ⟨_, hkey⟩

/-- What a request can do to the counter of a phone. -/
inductive CounterChange (phoneHash : String) (before : Store) :
    Option ℕ → Store → Prop
  | kept {after : Store} (hredis : after.redis (.otpVerifyPhone phoneHash) =
      before.redis (.otpVerifyPhone phoneHash)) :
      CounterChange phoneHash before none after
  | opened {after : Store} {entry : RedisEntry}
      (hdead : before.liveEntry (.otpVerifyPhone phoneHash) = none)
      (hredis : after.redis (.otpVerifyPhone phoneHash) = some entry)
      (hvalue : entry.value = 1) :
      CounterChange phoneHash before (some 1) after
  | increased {after : Store} {entry : RedisEntry} (earlier : RedisEntry)
      (hlive : before.liveEntry (.otpVerifyPhone phoneHash) = some earlier)
      (hredis : after.redis (.otpVerifyPhone phoneHash) = some entry)
      (hvalue : entry.value = earlier.value + 1) :
      CounterChange phoneHash before (some (earlier.value + 1)) after

theorem counterChange_of_increment (phoneHash : String) (windowSeconds : ℕ)
    (before : Store) :
    CounterChange phoneHash before
      (some (before.incrementCounter (.otpVerifyPhone phoneHash)
        windowSeconds).1)
      (before.incrementCounter (.otpVerifyPhone phoneHash)
        windowSeconds).2 := by
  cases hlive : before.liveEntry (.otpVerifyPhone phoneHash) with
  | none =>
      simp only [Store.incrementCounter, hlive, if_true]
      exact .opened hlive (Function.update_self _ _ _) rfl
  | some earlier =>
      simp only [Store.incrementCounter, hlive]
      split
      · exact .increased earlier hlive (Function.update_self _ _ _) rfl
      · exact .increased earlier hlive (Function.update_self _ _ _) rfl

theorem countedAs_of_keepsStore {entry : Entry}
    (hkeeps : keepsStore entry = true) : countedAs phoneHash entry = none := by
  unfold countedAs
  split
  · cases hkeeps
  · rfl

theorem counterChange_of_effect (phoneHash : String)
    (hguard : guard cfg req older op)
    (heffect : Effect before ⟨op, response⟩ after) :
    CounterChange phoneHash before (countedAs phoneHash ⟨op, response⟩)
      after := by
  have hkept : countedAs phoneHash ⟨op, response⟩ = none →
      after.redis (.otpVerifyPhone phoneHash) =
        before.redis (.otpVerifyPhone phoneHash) →
      CounterChange phoneHash before (countedAs phoneHash ⟨op, response⟩)
        after := by
    intro hnone hredis
    rw [hnone]
    exact .kept hredis
  cases heffect with
  | unchanged hkeeps =>
      exact hkept (countedAs_of_keepsStore hkeeps) rfl
  | counted key windowSeconds =>
      by_cases hkey : key = .otpVerifyPhone phoneHash
      · subst hkey
        simp only [countedAs, if_true]
        exact counterChange_of_increment phoneHash windowSeconds before
      · apply hkept
        · cases key with
          | otpVerifyPhone counted =>
              have hother : counted ≠ phoneHash := fun heq => hkey (heq ▸ rfl)
              simp only [countedAs, if_neg hother]
          | _ => rfl
        · exact Store.redis_incrementCounter_ne before (Ne.symm hkey) _
  | keySet key ttlSeconds =>
      apply hkept rfl
      apply Store.redis_setKey_ne
      rcases key_of_redisSet hguard with ⟨locked, rfl⟩ | ⟨jti, rfl⟩
      · exact RedisKey.noConfusion
      · exact RedisKey.noConfusion
  | committed items hholds =>
      apply hkept rfl
      have hredis : (items.foldl TransactWriteItem.write before).redis =
          before.redis :=
        keeps_writes (fun _ _ => rfl) (fun _ _ => rfl) (fun _ _ => rfl) items
          before
      rw [hredis]
  | _ => exact hkept rfl rfl

end Counter

section Windows

/-- The tickets of a phone, against the counter. -/
structure Windowed (phoneHash : String) (pool : Pool) : Prop where
  positive : ∀ entry,
    pool.store.redis (.otpVerifyPhone phoneHash) = some entry →
      1 ≤ entry.value
  window : ∀ ticket ∈ tickets phoneHash pool.log,
    ticket.window ≤ windows phoneHash pool.log
  latest : ∀ ticket ∈ tickets phoneHash pool.log,
    ticket.window = windows phoneHash pool.log →
      ∃ entry, pool.store.redis (.otpVerifyPhone phoneHash) = some entry ∧
        ticket.count ≤ entry.value
  counts : ∀ ticket ∈ tickets phoneHash pool.log, 1 ≤ ticket.count
  distinct : ((tickets phoneHash pool.log).map
    fun ticket => (ticket.window, ticket.count)).Nodup

theorem liveEntry_eq_some {store : Store} {key : RedisKey}
    {entry : RedisEntry} (hlive : store.liveEntry key = some entry) :
    store.redis key = some entry :=
  (Option.filter_eq_some_iff.mp hlive).1

/-- One more ticket, with a count that its window has not had. -/
theorem windowed_of_ticket {later : Pool} {ticket : Ticket}
    {entry : RedisEntry} (hwindowed : Windowed phoneHash pool)
    (htickets : tickets phoneHash later.log =
      ticket :: tickets phoneHash pool.log)
    (hwindows : windows phoneHash later.log = ticket.window)
    (hgrows : windows phoneHash pool.log ≤ ticket.window)
    (hredis : later.store.redis (.otpVerifyPhone phoneHash) = some entry)
    (hvalue : entry.value = ticket.count) (hpositive : 1 ≤ ticket.count)
    (hnew : ∀ old ∈ tickets phoneHash pool.log,
      old.window = ticket.window → old.count < ticket.count) :
    Windowed phoneHash later := by
  constructor
  · intro found hfound
    rw [hredis, Option.some.injEq] at hfound
    rw [← hfound, hvalue]
    exact hpositive
  · rw [htickets, hwindows, List.forall_mem_cons]
    exact ⟨le_refl _, fun old hold => (hwindowed.window old hold).trans hgrows⟩
  · rw [htickets, hwindows, List.forall_mem_cons]
    refine ⟨fun _ => ⟨entry, hredis, hvalue.ge⟩, fun old hold hlatest => ?_⟩
    exact ⟨entry, hredis, hvalue ▸ (hnew old hold hlatest).le⟩
  · rw [htickets, List.forall_mem_cons]
    exact ⟨hpositive, hwindowed.counts⟩
  · rw [htickets, List.map_cons, List.nodup_cons]
    refine ⟨?_, hwindowed.distinct⟩
    intro hmem
    obtain ⟨old, hold, hsame⟩ := List.mem_map.mp hmem
    simp only [Prod.mk.injEq] at hsame
    have hless := hnew old hold hsame.1
    omega

theorem windowed_of_exec {id : ℕ} {call : Call} {op : Op}
    {next : op.Res → Prog Op Op.Res Outcome} {response : op.Res}
    {after : Store} (hwindowed : Windowed phoneHash pool)
    (hexec : Exec cfg pool id call op response after) :
    Windowed phoneHash (pool.execCall id call op next response after) := by
  have hchange := counterChange_of_effect phoneHash hexec.guarded hexec.effect
  have htickets : tickets phoneHash
      (pool.execCall id call op next response after).log = _ :=
    tickets_cons phoneHash _ pool.log
  have hwindows : windows phoneHash
      (pool.execCall id call op next response after).log =
      windows phoneHash pool.log +
        if countedAs phoneHash ⟨op, response⟩ == some 1 then 1 else 0 := by
    rw [windows, Pool.execCall, List.countP_cons]
    rfl
  change tickets phoneHash (pool.execCall id call op next response after).log =
    ((countedAs phoneHash ⟨op, response⟩).map fun count => Ticket.mk id
      (windows phoneHash (pool.execCall id call op next response after).log)
      count).toList ++ tickets phoneHash pool.log at htickets
  generalize countedAs phoneHash ⟨op, response⟩ = counted at *
  cases hchange with
  | kept hredis =>
      simp only [Option.map_none, Option.toList_none, List.nil_append]
        at htickets
      simp only [reduceCtorEq, beq_iff_eq, if_false, Nat.add_zero] at hwindows
      constructor
      · intro entry hentry
        exact hwindowed.positive entry (hredis ▸ hentry)
      · rw [htickets, hwindows]
        exact hwindowed.window
      · rw [htickets, hwindows]
        intro ticket hticket hlatest
        obtain ⟨entry, hentry, hcount⟩ :=
          hwindowed.latest ticket hticket hlatest
        exact ⟨entry, hredis.trans hentry, hcount⟩
      · rw [htickets]
        exact hwindowed.counts
      · rw [htickets]
        exact hwindowed.distinct
  | opened hdead hredis hvalue =>
      simp only [beq_self_eq_true, if_true] at hwindows
      apply windowed_of_ticket hwindowed htickets rfl _ hredis hvalue
        (le_refl 1)
      · intro old hold hsame
        have hbound := hwindowed.window old hold
        dsimp only at hsame
        omega
      · dsimp only
        omega
  | increased earlier hlive hredis hvalue =>
      have hearlier := liveEntry_eq_some hlive
      have hpositive := hwindowed.positive earlier hearlier
      have hnot : ¬ earlier.value + 1 = 1 := by omega
      simp only [beq_iff_eq, Option.some.injEq, hnot, if_false,
        Nat.add_zero] at hwindows
      apply windowed_of_ticket hwindowed htickets rfl _ hredis hvalue
        (Nat.le_add_left 1 _)
      · intro old hold hsame
        dsimp only at hsame
        rw [hwindows] at hsame
        obtain ⟨entry, hentry, hcount⟩ := hwindowed.latest old hold hsame
        rw [hearlier, Option.some.injEq] at hentry
        subst hentry
        exact Nat.lt_succ_of_le hcount
      · exact hwindows.ge

/-- Tickets of one window have different counts. -/
theorem windowed (phoneHash : String)
    (hreach : (machine cfg).Reach admissible (start clock) pool) :
    Windowed phoneHash pool := by
  refine invariant (I := fun pool => Windowed phoneHash pool) ?_ ?_ ?_ ?_
    hreach
  · constructor
    · intro entry hentry
      cases hentry
    · intro ticket hticket
      cases hticket
    · intro ticket hticket
      cases hticket
    · intro ticket hticket
      cases hticket
    · exact List.nodup_nil
  · intro pool id req _ ih _ _ _
    exact ⟨ih.positive, ih.window, ih.latest, ih.counts, ih.distinct⟩
  · intro pool id choice call op next response after _ ih hexec _ _
    exact windowed_of_exec ih hexec
  · intro pool change after _ ih hadvance _ _
    have hredis := (framed_of_advance hadvance).redis
    refine ⟨?_, ih.window, ?_, ih.counts, ih.distinct⟩
    · intro entry hentry
      change after.redis _ = _ at hentry
      rw [hredis] at hentry
      exact ih.positive entry hentry
    · intro ticket hticket hlatest
      obtain ⟨entry, hentry, hcount⟩ := ih.latest ticket hticket hlatest
      refine ⟨entry, ?_, hcount⟩
      change after.redis _ = _
      rw [hredis]
      exact hentry

/-- The verifications of one window that the limit lets through. -/
def admitted (phoneHash : String) (log : List Event) (window : ℕ) :
    List Ticket :=
  (tickets phoneHash log).filter fun ticket =>
    ticket.window = window ∧ ticket.count ≤ maxOTPVerifyAttempts

theorem length_admitted_le (hwindowed : Windowed phoneHash pool)
    (window : ℕ) :
    (admitted phoneHash pool.log window).length ≤ maxOTPVerifyAttempts := by
  have hin : ∀ ticket ∈ admitted phoneHash pool.log window,
      ticket ∈ tickets phoneHash pool.log ∧ ticket.window = window ∧
        ticket.count ≤ maxOTPVerifyAttempts := by
    intro ticket hticket
    simpa [admitted] using hticket
  have hpairs : ((admitted phoneHash pool.log window).map
      fun ticket => (window, ticket.count)).Nodup := by
    have hsub := (List.filter_sublist.map _ :
      ((admitted phoneHash pool.log window).map
        fun ticket => (ticket.window, ticket.count)).Sublist _)
    rw [List.map_congr_left (g := fun ticket => (window, ticket.count))]
      at hsub
    · exact hwindowed.distinct.sublist hsub
    · intro ticket hticket
      rw [(hin ticket hticket).2.1]
  have hcounts : ((admitted phoneHash pool.log window).map
      Ticket.count).Nodup := by
    apply List.Nodup.of_map (fun count => (window, count))
    rw [List.map_map]
    exact hpairs
  have hrange : (admitted phoneHash pool.log window).map Ticket.count ⊆
      List.range' 1 maxOTPVerifyAttempts := by
    intro count hcount
    obtain ⟨ticket, hticket, rfl⟩ := List.mem_map.mp hcount
    obtain ⟨hmem, -, hlimit⟩ := hin ticket hticket
    have hpositive := hwindowed.counts ticket hmem
    rw [List.mem_range'_1]
    omega
  have hlength := (hcounts.subperm hrange).length_le
  rwa [List.length_map, List.length_range'] at hlength

end Windows

end MessagingPlatform.VerifyWindows
