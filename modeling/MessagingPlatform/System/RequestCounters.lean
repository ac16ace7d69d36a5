import MessagingPlatform.App.RequestOutcomes
import MessagingPlatform.System.Limiter
import MessagingPlatform.System.VerifyWindows

/-!
# The counters of the running service

Every counter of the service is charged through the limiter, with one window
length, so that at any time the counts are those of the fixed windows of the
charges in the log.  The counter of a phone is charged before the address is
looked at: the requests of a blocked address use up the quota of the phones
that it names.
-/

namespace MessagingPlatform.RequestCounters

open Program
open Interleaving
open FixedWindow
open Instants
open Errors
open Records
open Primitives
open Tables
open Operations
open Effects
open Transactions
open RequestOutcomes
open Service
open ServiceRules
open MessagingPlatform.Runs
open Limiter (windowLength counterEntry incrementCounter_eq)
open VerifyWindows (key_of_redisSet)
open Deployment

section Definitions

/-- The window of all counters. -/
def rateSeconds : ℕ := wholeSeconds otpRateLimitWindow

def rateWindow : Time := windowLength rateSeconds

/-- A counted request: the call that made it, the counter and the time. -/
structure Charge where
  call : ℕ
  key : RedisKey
  time : Time
  deriving DecidableEq

/-- The charge of a logged request, with the count it was answered. -/
def chargeOf (event : Event) : Option (Charge × ℕ) :=
  match event.entry with
  | ⟨.redisEval key _, .ok count⟩ =>
      some (⟨event.call, key, event.before.clock⟩, count)
  | _ => none

def counted (log : List Event) : List (Charge × ℕ) := log.filterMap chargeOf

def charges (log : List Event) : List Charge := (counted log).map Prod.fst

/-- The times at which a counter was charged, newest first. -/
def timesOn (key : RedisKey) (charges : List Charge) : List Time :=
  (charges.filter (·.key = key)).map Charge.time

/-- Every charge with the number of charges of its window up to it. -/
def ranked : List Charge → List (Charge × ℕ)
  | [] => []
  | charge :: older =>
      (charge, (lastWindow rateWindow
        (charge.time :: timesOn charge.key older)).length) :: ranked older

/-- The keys of counters; the others are set, never charged. -/
def counterKey : RedisKey → Bool
  | .otpLockoutPhone _ => false
  | .revokedJTI _ => false
  | _ => true

/-- The counters are those of the charges. -/
structure Charged (pool : Pool) : Prop where
  counters : ∀ key, counterKey key = true →
    pool.store.redis key =
      counterEntry rateSeconds (timesOn key (charges pool.log))
  counts : counted pool.log = ranked (charges pool.log)
  sorted : (charges pool.log).Pairwise (·.time ≥ ·.time)
  bounded : ∀ charge ∈ charges pool.log, charge.time ≤ pool.store.clock

end Definitions

variable {cfg : AuthServiceConfig} {admissible : Pool → Label → Prop}
variable {clock : Time} {pool : Pool}

section Counters

variable {req : Request} {older : History} {op : Op} {response : op.Res}
variable {before after : Store}

theorem chargeOf_of_keepsStore {event : Event}
    (hkeeps : keepsStore event.entry = true) : chargeOf event = none := by
  unfold chargeOf
  split
  · next hentry =>
      rw [hentry] at hkeeps
      cases hkeeps
  · rfl

/-- Every counter is charged with the same window. -/
theorem charge_of_guard {key : RedisKey} {windowSeconds : ℕ}
    (hguard : guard cfg req older (.redisEval key windowSeconds)) :
    windowSeconds = rateSeconds ∧ counterKey key = true := by
  cases req with
  | requestOTP phone clientIP =>
      obtain ⟨hwindow, ⟨rfl, -⟩ | rfl⟩ := hguard
      · exact ⟨hwindow, rfl⟩
      · exact ⟨hwindow, rfl⟩
  | verifyOTP phone otpCandidate deviceID =>
      obtain ⟨rfl, hwindow, -⟩ := hguard
      exact ⟨hwindow, rfl⟩
  | refreshTokens | logout => exact hguard.elim

/-- What a request can do to the counters. -/
theorem counters_of_effect (id : ℕ) (hguard : guard cfg req older op)
    (heffect : Effect before ⟨op, response⟩ after) :
    (chargeOf ⟨id, older, ⟨op, response⟩, before, after⟩ = none ∧
      ∀ key, counterKey key = true → after.redis key = before.redis key) ∨
    ∃ key, counterKey key = true ∧
      chargeOf ⟨id, older, ⟨op, response⟩, before, after⟩ =
        some (⟨id, key, before.clock⟩,
          (before.incrementCounter key rateSeconds).1) ∧
      after = (before.incrementCounter key rateSeconds).2 := by
  cases heffect with
  | unchanged hkeeps =>
      exact .inl ⟨chargeOf_of_keepsStore hkeeps, fun _ _ => rfl⟩
  | counted key windowSeconds =>
      obtain ⟨rfl, hcounter⟩ := charge_of_guard hguard
      exact .inr ⟨key, hcounter, rfl, rfl⟩
  | keySet key ttlSeconds =>
      refine .inl ⟨rfl, fun counter hcounter => ?_⟩
      apply Store.redis_setKey_ne
      rintro rfl
      rcases key_of_redisSet hguard with ⟨locked, rfl⟩ | ⟨jti, rfl⟩
      · cases hcounter
      · cases hcounter
  | committed items hholds =>
      have hredis : (items.foldl TransactWriteItem.write before).redis =
          before.redis :=
        keeps_writes (fun _ _ => rfl) (fun _ _ => rfl) (fun _ _ => rfl) items
          before
      exact .inl ⟨rfl, fun key _ => by rw [hredis]⟩
  | _ => exact .inl ⟨rfl, fun _ _ => rfl⟩

theorem timesOn_cons (key : RedisKey) (charge : Charge)
    (older : List Charge) :
    timesOn key (charge :: older) =
      if charge.key = key then charge.time :: timesOn key older
      else timesOn key older := by
  unfold timesOn
  split
  · next hkey => rw [List.filter_cons_of_pos (by simpa using hkey)]; rfl
  · next hkey => rw [List.filter_cons_of_neg (by simpa using hkey)]

/-- One more request. -/
theorem charged_of_exec {id : ℕ} {call : Call}
    {next : op.Res → Prog Op Op.Res Outcome}
    (hcharged : Charged pool)
    (hexec : Exec cfg pool id call op response after) :
    Charged (pool.execCall id call op next response after) := by
  have hclock := hexec.effect.clock
  rcases counters_of_effect id hexec.guarded hexec.effect with
    ⟨hnone, hkept⟩ | ⟨key, hcounter, hsome, hafter⟩
  · have hcounted : counted (pool.execCall id call op next response after).log =
        counted pool.log := by
      rw [counted, Pool.execCall, List.filterMap_cons, hnone]
      rfl
    have hcharges : charges (pool.execCall id call op next response after).log =
        charges pool.log := by
      rw [charges, hcounted, charges]
    constructor
    · intro other hother
      rw [hcharges, ← hcharged.counters other hother]
      exact hkept other hother
    · rw [hcounted, hcharges]
      exact hcharged.counts
    · rw [hcharges]
      exact hcharged.sorted
    · rw [hcharges]
      intro charge hcharge
      exact (hcharged.bounded charge hcharge).trans hclock.ge
  · have hincrement := incrementCounter_eq (hcharged.counters key hcounter)
    have hcounted : counted (pool.execCall id call op next response after).log =
        (⟨id, key, pool.store.clock⟩,
          (pool.store.incrementCounter key rateSeconds).1) ::
            counted pool.log := by
      rw [counted, Pool.execCall, List.filterMap_cons, hsome]
      rfl
    have hcharges : charges (pool.execCall id call op next response after).log =
        ⟨id, key, pool.store.clock⟩ :: charges pool.log := by
      rw [charges, hcounted, List.map_cons, charges]
    constructor
    · intro other hother
      rw [hcharges, timesOn_cons]
      change after.redis other = _
      rw [hafter, hincrement]
      by_cases hkey : key = other
      · subst hkey
        rw [if_pos rfl]
        exact Function.update_self _ _ _
      · rw [if_neg hkey, ← hcharged.counters other hother]
        exact Function.update_of_ne (Ne.symm hkey) _ _
    · rw [hcharges, hcounted, ranked, ← hcharged.counts, hincrement]
      rfl
    · rw [hcharges]
      exact hcharged.sorted.cons hcharged.bounded
    · rw [hcharges, List.forall_mem_cons]
      exact ⟨hclock.ge, fun charge hcharge =>
        (hcharged.bounded charge hcharge).trans hclock.ge⟩

/-- The counters of every run. -/
theorem charged (hreach : (machine cfg).Reach admissible (start clock) pool) :
    Charged pool := by
  refine invariant (I := Charged) ?_ ?_ ?_ ?_ hreach
  · exact ⟨fun _ _ => rfl, rfl, .nil, by simp [charges, counted, start,
      Interleaving.Pool.initial]⟩
  · intro pool id req _ ih _ _ _
    exact ⟨ih.counters, ih.counts, ih.sorted, ih.bounded⟩
  · intro pool id choice call op next response after _ ih hexec _ _
    exact charged_of_exec ih hexec
  · intro pool change after _ ih hadvance _ _
    have hframed := framed_of_advance hadvance
    refine ⟨?_, ih.counts, ih.sorted, fun charge hcharge =>
      (ih.bounded charge hcharge).trans hframed.clock⟩
    intro key hcounter
    change after.redis key = _
    rw [hframed.redis]
    exact ih.counters key hcounter

end Counters

section Windows

/-- The charges of a counter with the answers of the limiter. -/
theorem map_ranked (key : RedisKey) (limit : ℕ) (all : List Charge) :
    ((ranked all).filter (·.1.key = key)).map
        (fun count => (count.1.time, decide (count.2 ≤ limit))) =
      judged rateWindow limit (timesOn key all) := by
  induction all with
  | nil => rfl
  | cons charge older ih =>
      rw [timesOn_cons, ranked]
      by_cases hkey : charge.key = key
      · rw [List.filter_cons_of_pos (by simpa using hkey), if_pos hkey,
          List.map_cons, ih, judged_cons, hkey]
      · rw [List.filter_cons_of_neg (by simpa using hkey), if_neg hkey, ih]

theorem exists_of_mem_ranked {charge : Charge} {count : ℕ}
    {all : List Charge} (hmem : (charge, count) ∈ ranked all) :
    ∃ newer older, all = newer ++ charge :: older ∧
      count = (lastWindow rateWindow
        (charge.time :: timesOn charge.key older)).length := by
  induction all with
  | nil => cases hmem
  | cons newest all ih =>
      rcases List.mem_cons.mp hmem with heq | hlater
      · cases heq
        exact ⟨[], all, rfl, rfl⟩
      · obtain ⟨newer, older, rfl, hcount⟩ := ih hlater
        exact ⟨newest :: newer, older, rfl, hcount⟩

/-- The charges of the window of a counter that the limiter allowed. -/
def allowedIn (limit : ℕ) (opening : Charge) (count : Charge × ℕ) : Bool :=
  passes rateWindow opening.time (count.1.time, decide (count.2 ≤ limit)) &&
    decide (count.1.key = opening.key)

/-- From the charge that opened a window to the deadline of the window, no more
charges are allowed than the limit. -/
theorem length_allowedIn_le (hcharged : Charged pool) {opening : Charge}
    (hopening : (opening, 1) ∈ counted pool.log) (limit : ℕ) :
    ((counted pool.log).filter (allowedIn limit opening)).length ≤ limit := by
  have hsorted := hcharged.sorted
  rw [hcharged.counts] at hopening ⊢
  obtain ⟨newer, older, hall, hcount⟩ := exists_of_mem_ranked hopening
  have htimes : timesOn opening.key (charges pool.log) =
      timesOn opening.key newer ++
        opening.time :: timesOn opening.key older := by
    simp [hall, timesOn]
  have hordered : (timesOn opening.key (charges pool.log)).Pairwise
      (· ≥ ·) := by
    rw [timesOn, List.pairwise_map]
    exact hsorted.filter _
  have hlength : 0 < rateWindow := by decide
  have hsplit := hordered
  rw [htimes] at hsplit
  have hbound : ((judged rateWindow limit
      (timesOn opening.key (charges pool.log))).filter
        (passes rateWindow opening.time)).length ≤ limit := by
    rw [htimes]
    exact passes_opened_le hlength hsplit (opens_of_length_one hcount.symm)
  rw [← map_ranked, List.filter_map, List.length_map,
    List.filter_filter] at hbound
  exact hbound

end Windows

section Removal

variable {keep : Charge → Bool}

/-- A charge that may be left out is over before any other of its counter. -/
def Apart (keep : Charge → Bool) (later earlier : Charge) : Prop :=
  later.key = earlier.key → keep earlier = false → keep later = true →
    earlier.time + rateWindow ≤ later.time

/-- Only the charges of the same counter matter to a count. -/
theorem lastWindow_timesOn_filter {charge : Charge} {older : List Charge}
    (hsorted : older.Pairwise (·.time ≥ ·.time))
    (hapart : older.Pairwise (Apart keep)) (hkeep : keep charge = true)
    (hcharge : ∀ earlier ∈ older, Apart keep charge earlier) :
    lastWindow rateWindow
        (charge.time :: timesOn charge.key (older.filter keep)) =
      lastWindow rateWindow (charge.time :: timesOn charge.key older) := by
  have hkey : ∀ other ∈ older.filter (·.key = charge.key),
      other ∈ older ∧ other.key = charge.key := by
    intro other hmem
    simpa using hmem
  unfold timesOn
  rw [List.filter_comm]
  apply lastWindow_filter
  · rw [List.pairwise_map]
    exact hsorted.filter _
  · refine (hapart.filter _).imp_of_mem ?_
    intro later earlier hlater hearlier happart
    exact happart ((hkey later hlater).2.trans (hkey earlier hearlier).2.symm)
  · intro earlier hmem hleft
    exact hcharge earlier (hkey earlier hmem).1 (hkey earlier hmem).2.symm hleft
      hkeep

/-- Charges can be left out without a trace in the counts of the others if all
later charges of their counters come at least a window length after them. -/
theorem ranked_filter {all : List Charge}
    (hsorted : all.Pairwise (·.time ≥ ·.time))
    (hapart : all.Pairwise (Apart keep)) :
    ranked (all.filter keep) = (ranked all).filter (keep ·.1) := by
  induction all with
  | nil => rfl
  | cons charge older ih =>
      rw [List.pairwise_cons] at hsorted hapart
      have hothers := ih hsorted.2 hapart.2
      cases hkeep : keep charge with
      | false =>
          rw [List.filter_cons_of_neg (by simp [hkeep]), ranked,
            List.filter_cons_of_neg (by simp [hkeep]), hothers]
      | true =>
          rw [List.filter_cons_of_pos hkeep, ranked, ranked, hothers,
            lastWindow_timesOn_filter hsorted.2 hapart.2 hkeep hapart.1]
          simp [hkeep]

end Removal

end MessagingPlatform.RequestCounters
