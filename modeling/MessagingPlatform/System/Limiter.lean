import MessagingPlatform.Core.FixedWindow
import MessagingPlatform.System.Deployment

/-!
# The rate limiter

`CheckAndIncrement` keeps one counter a key in Redis.  The counter is the
number of calls of the last fixed window of its key, with the deadline of that
window; what a call is answered depends on the calls with its key only.
-/

namespace MessagingPlatform.Limiter

open Program
open FixedWindow
open Instants
open Errors
open Primitives
open Tables
open Operations
open Stores
open Deployment

section Counters

/-- The length of a window. -/
def windowLength (windowSeconds : ℕ) : Time := windowSeconds * second

/-- The counter of a key after calls at the given times, newest first. -/
def counterEntry (windowSeconds : ℕ) (times : List Time) :
    Option RedisEntry :=
  (opening (windowLength windowSeconds) times).map fun opened =>
    ⟨(lastWindow (windowLength windowSeconds) times).length,
      some (opened + windowLength windowSeconds)⟩

variable {store : Store} {key : RedisKey} {windowSeconds : ℕ}
variable {times : List Time}

/-- A counter is live before the deadline of its window. -/
theorem liveEntry_eq_some_iff {entry : RedisEntry}
    (hcounter : store.redis key = counterEntry windowSeconds times) :
    store.liveEntry key = some entry ↔
      ∃ opened, opening (windowLength windowSeconds) times = some opened ∧
        store.clock < opened + windowLength windowSeconds ∧
        entry = ⟨(lastWindow (windowLength windowSeconds) times).length,
          some (opened + windowLength windowSeconds)⟩ := by
  rw [Store.liveEntry, hcounter, counterEntry]
  cases opening (windowLength windowSeconds) times with
  | none => simp
  | some opened =>
      simp only [Option.map_some, Option.filter_eq_some_iff, Option.some.injEq]
      constructor
      · rintro ⟨rfl, hlive⟩
        exact ⟨opened, rfl, of_decide_eq_true hlive, rfl⟩
      · rintro ⟨_, rfl, hlt, rfl⟩
        exact ⟨rfl, decide_eq_true hlt⟩

/-- `rateLimitScript` counts the call in its window. -/
theorem incrementCounter_eq
    (hcounter : store.redis key = counterEntry windowSeconds times) :
    store.incrementCounter key windowSeconds =
      ((lastWindow (windowLength windowSeconds)
          (store.clock :: times)).length,
        { store with
          redis := Function.update store.redis key
            (counterEntry windowSeconds (store.clock :: times)) }) := by
  rcases opens_or_joins (windowLength windowSeconds) store.clock times with
    ⟨opened, hopening, hlt⟩ | hle
  · have hlive := (liveEntry_eq_some_iff hcounter).mpr
      ⟨opened, hopening, hlt, rfl⟩
    have hne : times ≠ [] := by
      rintro rfl
      cases hopening
    have hpos : (lastWindow (windowLength windowSeconds) times).length ≠ 0 :=
      fun hzero => lastWindow_ne_nil hne (List.length_eq_zero_iff.mp hzero)
    simp [Store.incrementCounter, hlive, hpos, counterEntry,
      lastWindow_cons_of_lt hopening hlt, opening_cons_of_lt hopening hlt]
  · have hdead : store.liveEntry key = none := by
      cases hlive : store.liveEntry key with
      | none => rfl
      | some entry =>
          obtain ⟨opened, hopening, hlt, -⟩ :=
            (liveEntry_eq_some_iff hcounter).mp hlive
          exact absurd (hle opened hopening) (not_le.mpr hlt)
    simp only [Store.incrementCounter, hdead, counterEntry,
      lastWindow_cons_of_le hle, opening_cons_of_le hle, if_true]
    rfl

end Counters

section Sequences

/-- The limit and the window of every key. -/
structure Limits where
  limit : RedisKey → ℕ
  windowSeconds : RedisKey → ℕ
  limit_pos : ∀ key, 1 ≤ limit key
  windowSeconds_pos : ∀ key, 1 ≤ windowSeconds key

def Limits.length (limits : Limits) (key : RedisKey) : Time :=
  windowLength (limits.windowSeconds key)

/-- A call and its answer. -/
structure Answer where
  time : Time
  key : RedisKey
  allowed : Bool
  deriving DecidableEq

/-- The times of the calls with a key, newest first. -/
def timesOn (key : RedisKey) (answers : List Answer) : List Time :=
  (answers.filter (·.key = key)).map Answer.time

/-- The calls with a key and what they were answered. -/
def answersOn (key : RedisKey) (answers : List Answer) : List (Time × Bool) :=
  (answers.filter (·.key = key)).map fun answer =>
    (answer.time, answer.allowed)

variable (cfg : AuthServiceConfig) (limits : Limits)

/-- `CheckAndIncrement` at an instant, when Redis does not fail. -/
def checkAt (time : Time) (key : RedisKey) (store : Store) :
    Option (Except GoError Bool × Store) :=
  (checkAndIncrement key (limits.limit key)
    (limits.windowSeconds key)).run.runOn (fun op => perform cfg op .ok)
    { store with clock := time }

/-- Calls at non-decreasing times with their answers, newest first, and the
store that they leave. -/
inductive Checked (clock : Time) : List Answer → Store → Prop
  | none : Checked clock [] (Store.empty clock)
  | check {answers : List Answer} {store after : Store} {time : Time}
      {key : RedisKey} {allowed : Bool}
      (hchecked : Checked clock answers store) (htime : store.clock ≤ time)
      (hrun : checkAt cfg limits time key store = some (.ok allowed, after)) :
      Checked clock (⟨time, key, allowed⟩ :: answers) after

variable {cfg limits} {clock time : Time} {key : RedisKey} {allowed : Bool}
variable {answers : List Answer} {store after : Store}

theorem timesOn_cons_self (time : Time) (key : RedisKey) (allowed : Bool)
    (answers : List Answer) :
    timesOn key (⟨time, key, allowed⟩ :: answers) =
      time :: timesOn key answers := by
  simp [timesOn]

theorem timesOn_cons_ne {other : RedisKey} (hother : key ≠ other)
    (time : Time) (allowed : Bool) (answers : List Answer) :
    timesOn other (⟨time, key, allowed⟩ :: answers) =
      timesOn other answers := by
  simp [timesOn, hother]

/-- One call. -/
theorem checkAt_eq {times : List Time}
    (hcounter : store.redis key =
      counterEntry (limits.windowSeconds key) times) (time : Time) :
    checkAt cfg limits time key store =
      some (.ok (decide ((lastWindow (limits.length key)
          (time :: times)).length ≤ limits.limit key)),
        { store with
          clock := time
          redis := Function.update store.redis key
            (counterEntry (limits.windowSeconds key) (time :: times)) }) := by
  let counted := { store with clock := time }.incrementCounter key
    (limits.windowSeconds key)
  have hcounted : counted = _ :=
    @incrementCounter_eq { store with clock := time } key _ times hcounter
  calc checkAt cfg limits time key store
      = some (.ok (decide (counted.1 ≤ limits.limit key)), counted.2) := rfl
    _ = _ := by rw [hcounted, Limits.length]

/-- Every counter is the one of the calls with its key. -/
theorem Checked.counter (hchecked : Checked cfg limits clock answers store) :
    ∀ key, store.redis key =
      counterEntry (limits.windowSeconds key) (timesOn key answers) := by
  induction hchecked with
  | none => exact fun _ => rfl
  | @check answers store after time called allowed _ _ hrun ih =>
      rw [checkAt_eq (ih called), Option.some.injEq, Prod.mk.injEq] at hrun
      obtain ⟨-, rfl⟩ := hrun
      intro key
      by_cases hkey : called = key
      · subst hkey
        rw [timesOn_cons_self]
        exact Function.update_self _ _ _
      · rw [timesOn_cons_ne hkey, ← ih key]
        exact Function.update_of_ne (Ne.symm hkey) _ _

/-- The next call, whatever its key. -/
theorem Checked.next (hchecked : Checked cfg limits clock answers store)
    (time : Time) (htime : store.clock ≤ time) (key : RedisKey) :
    ∃ after, Checked cfg limits clock
        (⟨time, key, decide ((lastWindow (limits.length key)
          (time :: timesOn key answers)).length ≤ limits.limit key)⟩ ::
            answers) after ∧
      after.clock = time :=
  ⟨_, hchecked.check htime (checkAt_eq (hchecked.counter key) time), rfl⟩

/-- What a call is answered. -/
theorem Checked.last
    (hchecked : Checked cfg limits clock (⟨time, key, allowed⟩ :: answers)
      store) :
    allowed = decide ((lastWindow (limits.length key)
      (time :: timesOn key answers)).length ≤ limits.limit key) := by
  cases hchecked with
  | check hearlier _ hrun =>
      rw [checkAt_eq (hearlier.counter key), Option.some.injEq,
        Prod.mk.injEq, Except.ok.injEq] at hrun
      exact hrun.1.symm

/-- The answers to the calls with a key are those of its windows. -/
theorem Checked.judged (hchecked : Checked cfg limits clock answers store) :
    ∀ key, answersOn key answers =
      judged (limits.length key) (limits.limit key)
        (timesOn key answers) := by
  induction hchecked with
  | none => exact fun _ => rfl
  | @check answers store after time called allowed hearlier htime hrun ih =>
      intro key
      by_cases hkey : called = key
      · subst hkey
        rw [timesOn_cons_self, judged_cons,
          ← (hearlier.check htime hrun).last, ← ih called]
        simp [answersOn]
      · rw [timesOn_cons_ne hkey, ← ih key]
        simp [answersOn, hkey]

theorem Checked.clock_eq
    (hchecked : Checked cfg limits clock (⟨time, key, allowed⟩ :: answers)
      store) : store.clock = time := by
  cases hchecked with
  | check hearlier _ hrun =>
      rw [checkAt_eq (hearlier.counter key), Option.some.injEq,
        Prod.mk.injEq] at hrun
      rw [← hrun.2]

theorem Checked.times_le (hchecked : Checked cfg limits clock answers store) :
    ∀ answer ∈ answers, answer.time ≤ store.clock := by
  induction hchecked with
  | none => simp
  | check hearlier htime hrun ih =>
      rw [(hearlier.check htime hrun).clock_eq, List.forall_mem_cons]
      exact ⟨le_rfl, fun answer hanswer => (ih answer hanswer).trans htime⟩

/-- The calls come in the order of their times. -/
theorem Checked.sorted (hchecked : Checked cfg limits clock answers store) :
    answers.Pairwise (·.time ≥ ·.time) := by
  induction hchecked with
  | none => exact .nil
  | check hearlier htime _ ih =>
      exact ih.cons fun answer hanswer =>
        (hearlier.times_le answer hanswer).trans htime

theorem Checked.timesOn_sorted
    (hchecked : Checked cfg limits clock answers store) (key : RedisKey) :
    (timesOn key answers).Pairwise (· ≥ ·) :=
  (hchecked.sorted.filter _).map _ fun _ _ => id

end Sequences

section Windows

variable {cfg : AuthServiceConfig} {limits : Limits} {clock : Time}
variable {answers : List Answer} {store : Store}

/-- A live counter counts the calls of the last window of its key and has the
deadline of that window. -/
theorem Checked.live (hchecked : Checked cfg limits clock answers store)
    {key : RedisKey} {entry : RedisEntry}
    (hlive : store.liveEntry key = some entry) :
    ∃ opened, opening (limits.length key) (timesOn key answers) = some opened ∧
      entry = ⟨(lastWindow (limits.length key)
        (timesOn key answers)).length, some (opened + limits.length key)⟩ := by
  obtain ⟨opened, hopening, -, hentry⟩ :=
    (liveEntry_eq_some_iff (hchecked.counter key)).mp hlive
  exact ⟨opened, hopening, hentry⟩

/-- Later calls do not move the deadline. -/
theorem Checked.deadline_kept
    (hchecked : Checked cfg limits clock answers store) {key : RedisKey}
    {entry : RedisEntry} (hlive : store.liveEntry key = some entry)
    {later : List Answer} {after : Store}
    (hlater : Checked cfg limits clock (later ++ answers) after)
    {deadline : Time} (hdeadline : entry.deadline = some deadline)
    (hbefore : after.clock < deadline) :
    ∃ kept, after.liveEntry key = some kept ∧
      kept.deadline = some deadline := by
  obtain ⟨opened, hopening, rfl⟩ := hchecked.live hlive
  cases hdeadline
  have htimes : timesOn key (later ++ answers) =
      timesOn key later ++ timesOn key answers := by
    simp [timesOn]
  have hkept : opening (limits.length key) (timesOn key (later ++ answers)) =
      some opened := by
    rw [htimes]
    refine opening_append hopening fun time htime => ?_
    obtain ⟨answer, hanswer, rfl⟩ := List.mem_map.mp htime
    have hmem := List.mem_append_left answers (List.mem_of_mem_filter hanswer)
    exact lt_of_le_of_lt (hlater.times_le answer hmem) hbefore
  exact ⟨_, (liveEntry_eq_some_iff (hlater.counter key)).mpr
    ⟨opened, hkept, hbefore, rfl⟩, rfl⟩

/-- The first call at or after the deadline. -/
theorem Checked.opens {time : Time} {key : RedisKey} {allowed : Bool}
    (hchecked : Checked cfg limits clock (⟨time, key, allowed⟩ :: answers)
      store)
    (hended : ∀ opened, opening (limits.length key) (timesOn key answers) =
      some opened → opened + limits.length key ≤ time) :
    allowed = true ∧
      windows (limits.length key) (time :: timesOn key answers) =
        [time] :: windows (limits.length key) (timesOn key answers) ∧
      store.liveEntry key = some ⟨1, some (time + limits.length key)⟩ := by
  refine ⟨?_, windows_cons_of_le hended, ?_⟩
  · rw [hchecked.last, lastWindow_cons_of_le hended]
    exact decide_eq_true (limits.limit_pos key)
  · have hwindow : (0 : Time) < limits.length key := by
      have hpos := limits.windowSeconds_pos key
      have hsecond : (0 : Time) < second := by decide
      exact mul_pos (by exact_mod_cast hpos) hsecond
    rw [liveEntry_eq_some_iff (hchecked.counter key), timesOn_cons_self,
      hchecked.clock_eq]
    refine ⟨time, opening_cons_of_le hended, ?_, ?_⟩
    · exact lt_add_of_pos_right time hwindow
    · rw [← Limits.length, lastWindow_cons_of_le hended]
      rfl

/-- Every sequence of calls at non-decreasing times gets answers.  A live
counter has a deadline one window length after the call that opened its
window, and later calls do not move it.  Of each window of a key exactly the
first calls up to the limit are allowed, so that at most twice the limit are
allowed in any interval of the length of a window; the calls with other keys
have no part in it.  The first call at or after the deadline opens a window
and is allowed. -/
theorem counters_are_fixed_windows
    (hchecked : Checked cfg limits clock answers store) :
    (∀ time key, store.clock ≤ time → ∃ allowed after,
      Checked cfg limits clock (⟨time, key, allowed⟩ :: answers) after) ∧
    (∀ key entry, store.liveEntry key = some entry →
      ∃ opened,
        opening (limits.length key) (timesOn key answers) = some opened ∧
        entry = ⟨(lastWindow (limits.length key)
          (timesOn key answers)).length,
            some (opened + limits.length key)⟩) ∧
    (∀ key entry later after deadline, store.liveEntry key = some entry →
      Checked cfg limits clock (later ++ answers) after →
      entry.deadline = some deadline → after.clock < deadline →
        ∃ kept, after.liveEntry key = some kept ∧
          kept.deadline = some deadline) ∧
    (∀ key, answersOn key answers =
      (windows (limits.length key) (timesOn key answers)).flatMap fun window =>
        window.zip (verdicts (limits.limit key) window.length)) ∧
    (∀ key start,
      ((answersOn key answers).filter
        (passes (limits.length key) start)).length ≤ 2 * limits.limit key) ∧
    (∀ key limits' clock' answers' store',
      Checked cfg limits' clock' answers' store' →
      limits'.limit key = limits.limit key →
      limits'.windowSeconds key = limits.windowSeconds key →
      timesOn key answers' = timesOn key answers →
        answersOn key answers' = answersOn key answers) ∧
    (∀ time key allowed after,
      Checked cfg limits clock (⟨time, key, allowed⟩ :: answers) after →
      (∀ opened, opening (limits.length key) (timesOn key answers) =
        some opened → opened + limits.length key ≤ time) →
        allowed = true ∧
          windows (limits.length key) (time :: timesOn key answers) =
            [time] :: windows (limits.length key) (timesOn key answers) ∧
          after.liveEntry key = some ⟨1, some (time + limits.length key)⟩) := by
  have hnext : ∀ time key, store.clock ≤ time → ∃ allowed after,
      Checked cfg limits clock (⟨time, key, allowed⟩ :: answers) after := by
    intro time key htime
    obtain ⟨after, hafter, -⟩ := hchecked.next time htime key
    exact ⟨_, after, hafter⟩
  refine ⟨hnext,
    fun key entry hlive => hchecked.live hlive,
    fun key entry later after deadline hlive hlater hdeadline hbefore =>
      hchecked.deadline_kept hlive hlater hdeadline hbefore,
    hchecked.judged, ?_, ?_,
    fun time key allowed after hnext hended => hnext.opens hended⟩
  · intro key start
    rw [hchecked.judged key]
    exact passes_le _ _ _ (hchecked.timesOn_sorted key)
  · intro key limits' clock' answers' store' hother hlimit hwindow htimes
    rw [hchecked.judged key, hother.judged key, htimes, hlimit, Limits.length,
      hwindow, Limits.length]

/-- Two calls in ten seconds. -/
def twiceInTen : Limits where
  limit := fun _ => 2
  windowSeconds := fun _ => 10
  limit_pos := fun _ => by decide
  windowSeconds_pos := fun _ => by decide

/-- Three calls in one window and one at its deadline, and a call with another
key in between. -/
def fiveAnswers : List Answer :=
  [⟨10 * second, .otpReqIP "203.0.113.7", true⟩,
    ⟨2 * second, .otpReqIP "203.0.113.7", false⟩,
    ⟨second, .otpReqIP "198.51.100.9", true⟩,
    ⟨second, .otpReqIP "203.0.113.7", true⟩,
    ⟨0, .otpReqIP "203.0.113.7", true⟩]

theorem fiveAnswers_checked :
    ∃ store, Checked (deployment []) twiceInTen 0 fiveAnswers store ∧
      (∀ entry, store.liveEntry (.otpReqIP "203.0.113.7") = some entry →
        entry.deadline = some (20 * second)) ∧
      ((answersOn (.otpReqIP "203.0.113.7") fiveAnswers).filter
        (passes (10 * second) second)).length ≤ 4 := by
  have hnone : Checked (deployment []) twiceInTen 0 [] (Store.empty 0) := .none
  obtain ⟨_, hone, hclock⟩ := hnone.next 0 le_rfl
    (.otpReqIP "203.0.113.7")
  obtain ⟨_, htwo, hclock⟩ := hone.next second
    (by rw [hclock]; decide) (.otpReqIP "203.0.113.7")
  obtain ⟨_, hthree, hclock⟩ := htwo.next second
    (by rw [hclock]) (.otpReqIP "198.51.100.9")
  obtain ⟨_, hfour, hclock⟩ := hthree.next (2 * second)
    (by rw [hclock]; decide) (.otpReqIP "203.0.113.7")
  obtain ⟨store, hfive, -⟩ := hfour.next (10 * second)
    (by rw [hclock]; decide) (.otpReqIP "203.0.113.7")
  have hchecked : Checked (deployment []) twiceInTen 0 fiveAnswers store := by
    convert hfive using 1
    decide +kernel
  obtain ⟨-, hlive, -, -, hbound, -, -⟩ := counters_are_fixed_windows hchecked
  refine ⟨store, hchecked, fun entry hentry => ?_, hbound _ second⟩
  obtain ⟨opened, hopening, rfl⟩ := hlive _ entry hentry
  have hopened : opening (twiceInTen.length (.otpReqIP "203.0.113.7"))
      (timesOn (.otpReqIP "203.0.113.7") fiveAnswers) =
      some (10 * second) := by
    decide +kernel
  rw [hopening, Option.some.injEq] at hopened
  subst hopened
  decide +kernel

end Windows

end MessagingPlatform.Limiter
