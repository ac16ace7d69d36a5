import MessagingPlatform.App.ParseFailures
import MessagingPlatform.Domain.TimestampOrder
import MessagingPlatform.System.ActiveSessions
import MessagingPlatform.System.ExactEvictions
import MessagingPlatform.System.StoredCodes

/-!
# The timestamps that the service writes

Every timestamp in the tables is the text of an instant that a call has read
from the clock, moved by a fixed lifetime.  While such instants lie in the years
0000 to 9999, comparing texts is comparing times, and every stored expiry
parses.
-/

namespace MessagingPlatform.WrittenTimestamps

open Program
open Interleaving
open Instants
open Records
open Primitives
open Tables
open Operations
open Effects
open Transactions
open VerifyRules
open SessionRules
open RequestRules
open Flows
open Service
open ServiceRules
open MessagingPlatform.Runs
open Commits
open StoredCodes
open ParseFailures
open TimestampOrder
open Deployment
open ActiveSessions (mem_activeKeys)
open ExactEvictions (Split exists_split stamp
  before_eq_stamp excessSessionsBy)

variable {cfg : AuthServiceConfig} {admissible : Pool → Label → Prop}
variable {clock : Time} {pool : Pool}

section Written

/-- The text of an instant between the start of a run and the longest lifetime
from now. -/
def Written (clock now : Time) (text : TimeText) : Prop :=
  ∃ instant, clock ≤ instant ∧ instant ≤ now + refreshTokenLifetime ∧
    text = format instant

theorem Written.later {now later : Time} {text : TimeText}
    (hwritten : Written clock now text) (hlater : now ≤ later) :
    Written clock later text := by
  obtain ⟨instant, hfrom, hto, rfl⟩ := hwritten
  exact ⟨instant, hfrom, hto.trans (by linarith), rfl⟩

/-- A clock reading, moved by at most the longest lifetime. -/
theorem written_add {now reading : Time} {lifetime : Duration}
    (hreading : clock ≤ reading ∧ reading ≤ now) (hnonneg : 0 ≤ lifetime)
    (hlifetime : lifetime ≤ refreshTokenLifetime) :
    Written clock now (format (reading + lifetime)) :=
  ⟨reading + lifetime, by linarith [hreading.1], by linarith [hreading.2], rfl⟩

/-- Clock readings lie between the start of the run and now. -/
theorem reading_bounds {id : ℕ} {call : Call} {reading : Time}
    (hreach : (machine cfg).Reach admissible (start clock) pool)
    (hcall : pool.calls.lookup id = some call)
    (hread : (⟨.clockNow, reading⟩ : Entry) ∈ call.history) :
    clock ≤ reading ∧ reading ≤ pool.store.clock := by
  refine ⟨?_, read_le_clock hreach hcall hread⟩
  refine forall_entries (F := fun _ entry => ∀ reading,
    entry = ⟨.clockNow, reading⟩ → clock ≤ reading) ?_ ?_ hreach hcall _ hread
    reading rfl
  · exact fun _ _ _ hentry _ => hentry
  · intro pool id choice call op next response after hpool hexec _ _ reading heq
    cases heq
    have hreading : reading = pool.store.clock := hexec.answers
    rw [hreading]
    exact clock_mono hpool

theorem now_mem_of_commit {phone otpCandidate deviceID userID : String}
    {older : History} {items : List TransactWriteItem} {before after : Store}
    {tried : Attempt} {created : NewSession} {item : OTPItem}
    (hcommit : Commit cfg phone otpCandidate deviceID older items before after
      tried created userID item) :
    (⟨.clockNow, created.now⟩ : Entry) ∈ older := by
  cases hcommit.path with
  | registration base _ holder =>
      rw [holder]
      simp [Registration.entries]
  | login login _ _ _ holder =>
      rw [holder]
      simp [NewSession.entries]

/-- The expiry of every OTP record was written by a code request. -/
theorem record_written {phoneHash : String} {item : OTPItem}
    (hreach : (machine cfg).Reach admissible (start clock) pool)
    (hitem : pool.store.otpRequests.lookup phoneHash = some item) :
    Written clock pool.store.clock item.expiresAt := by
  refine invariant (I := fun pool => ∀ phoneHash item,
    pool.store.otpRequests.lookup phoneHash = some item →
      Written clock pool.store.clock item.expiresAt) ?_ ?_ ?_ ?_ hreach
    phoneHash item hitem
  · intro phoneHash item hitem
    simp [start, Pool.initial, Store.empty] at hitem
  · intro pool id req _ ih _ _ _
    exact ih
  · intro pool id choice call op next response after hpool ih hexec _ _
      phoneHash item hitem
    have hclock : after.clock = pool.store.clock := hexec.effect.clock
    have hchange := recordChange_of_effect phoneHash hexec.guarded hexec.effect
    rw [show after.otpRequests.lookup phoneHash = some item from hitem]
      at hchange
    change Written clock after.clock item.expiresAt
    rw [hclock]
    generalize hbefore : pool.store.otpRequests.lookup phoneHash = earlier
      at hchange
    cases hchange with
    | kept hkeeps => exact ih phoneHash item hbefore
    | stored item now hreplaceable =>
        obtain ⟨phone, clientIP, issue, counted, -, -, rfl, -, holder⟩ :=
          issue_of_put hexec.guarded
        have hread : (⟨.clockNow, issue.issuedAt⟩ : Entry) ∈ call.history := by
          rw [holder]
          simp [Issue.entries]
        exact written_add (reading_bounds hpool hexec.lookup hread) (by decide)
          (by decide)
    | incremented old hold | consumed items old hold =>
        exact ih phoneHash old (hbefore.trans hold)
  · intro pool change after _ ih hadvance _ _ phoneHash item hitem
    have hframed := framed_of_advance hadvance
    refine Written.later (ih phoneHash item ?_) hframed.clock
    rw [← hframed.otpRequests]
    exact hitem

/-- The timestamps of a session item. -/
structure SessionWritten (clock now : Time) (item : SessionItem) : Prop where
  expiresAt : Written clock now item.expiresAt
  createdAt : ∀ text, item.createdAt = some text → Written clock now text

theorem SessionWritten.later {now later : Time} {item : SessionItem}
    (hwritten : SessionWritten clock now item) (hlater : now ≤ later) :
    SessionWritten clock later item where
  expiresAt := hwritten.expiresAt.later hlater
  createdAt text htext := (hwritten.createdAt text htext).later hlater

/-- The timestamps of every session were written by verifications and
refreshes. -/
theorem session_written {sessionID : String} {item : SessionItem}
    (hreach : (machine cfg).Reach admissible (start clock) pool)
    (hitem : pool.store.sessions.lookup sessionID = some item) :
    SessionWritten clock pool.store.clock item := by
  refine invariant (I := fun pool => ∀ sessionID item,
    pool.store.sessions.lookup sessionID = some item →
      SessionWritten clock pool.store.clock item) ?_ ?_ ?_ ?_ hreach sessionID
    item hitem
  · intro sessionID item hitem
    simp [start, Pool.initial, Store.empty] at hitem
  · intro pool id req _ ih _ _ _
    exact ih
  · intro pool id choice call op next response after hpool ih hexec _ _
      sessionID item hitem
    have hclock : after.clock = pool.store.clock := hexec.effect.clock
    have hchange := sessionChange_of_effect sessionID hexec.guarded hexec.effect
    rw [show after.sessions.lookup sessionID = some item from hitem]
      at hchange
    change SessionWritten clock after.clock item
    rw [hclock]
    generalize hbefore : pool.store.sessions.lookup sessionID = earlier
      at hchange
    cases hchange with
    | kept hkeeps => exact ih sessionID item hbefore
    | rotated update =>
        obtain ⟨_, _, _, look, newRefresh, now, -, -, -, rfl, holder⟩ :=
          rotation_of_guard hexec.guarded
        have hread : (⟨.clockNow, now⟩ : Entry) ∈ call.history := by
          rw [holder]
          simp [Lookup.rotatingEntries]
        refine ⟨written_add (reading_bounds hpool hexec.lookup hread)
          (by decide) (le_refl _), ?_⟩
        intro text htext
        obtain ⟨old, hold, hsame⟩ := Option.bind_eq_some_iff.mp htext
        exact (ih sessionID old (hbefore.trans hold)).createdAt text hsame
    | created items item habsent hput =>
        obtain ⟨_, _, deviceID, _, created, userID, _, -, hcommit⟩ :=
          commit_of_exec hexec
        have hbounds := reading_bounds hpool hexec.lookup
          (now_mem_of_commit hcommit)
        have hcreates := hput.symm.trans hcommit.proposal.creates
        simp only [List.cons.injEq, Prod.mk.injEq, and_true] at hcreates
        rw [hcreates.2]
        refine ⟨written_add hbounds (by decide) (le_refl _), ?_⟩
        intro text htext
        cases htext
        have hnow := written_add hbounds (le_refl 0) (by decide)
        rwa [add_zero] at hnow
  · intro pool change after _ ih hadvance _ _ sessionID item hitem
    have hframed := framed_of_advance hadvance
    refine SessionWritten.later (ih sessionID item ?_) hframed.clock
    rw [← hframed.sessions]
    exact hitem

/-- What the user index lists is a copy of a session. -/
theorem indexed_written {sessionID : String} {item : SessionItem}
    (hreach : (machine cfg).Reach admissible (start clock) pool)
    (hitem : pool.store.userSessionsIndex.lookup sessionID = some item) :
    SessionWritten clock pool.store.clock item := by
  refine invariant (I := fun pool => ∀ sessionID item,
    pool.store.userSessionsIndex.lookup sessionID = some item →
      SessionWritten clock pool.store.clock item) ?_ ?_ ?_ ?_ hreach sessionID
    item hitem
  · intro sessionID item hitem
    simp [start, Pool.initial, Store.empty] at hitem
  · intro pool id req _ ih _ _ _
    exact ih
  · intro pool id choice call op next response after _ ih hexec _ _ sessionID
      item hitem
    refine SessionWritten.later (ih sessionID item ?_) hexec.effect.clock.ge
    rw [← hexec.effect.userSessionsIndex]
    exact hitem
  · intro pool change after hpool ih hadvance _ _ sessionID item hitem
    have hclock := (framed_of_advance hadvance).clock
    rcases indexed_of_advance hadvance hitem with hlisted | ⟨hstored, -⟩
    · exact (ih sessionID item hlisted).later hclock
    · exact (session_written hpool hstored).later hclock

/-- What a call has read parses. -/
theorem readable_of_reach {id : ℕ} {call : Call}
    (hreach : (machine cfg).Reach admissible (start clock) pool)
    (hcall : pool.calls.lookup id = some call) :
    ∀ entry ∈ call.history, readable entry := by
  refine forall_entries (F := fun _ entry => readable entry) ?_ ?_ hreach hcall
  · exact fun _ _ _ hentry _ => hentry
  · intro pool id choice call op next response after hpool hexec _ _
    unfold readable
    split
    · next heq =>
        cases heq
        obtain ⟨instant, -, -, hexpiry⟩ :=
          record_written hpool hexec.answers.symm
        rw [hexpiry]
        rfl
    · next heq =>
        cases heq
        obtain ⟨instant, -, -, hexpiry⟩ :=
          (session_written hpool hexec.answers.symm).expiresAt
        rw [hexpiry]
        rfl
    · trivial

end Written

section Comparisons

/-- The timestamps of two instants compare like the instants do in whole
seconds, and the timestamp of an instant parses to its second. -/
structure LikeTime (general : String → Option Time) (left right : Time) :
    Prop where
  order : timestamp left < timestamp right ↔ truncated left < truncated right
  same : timestamp left = timestamp right ↔ truncated left = truncated right
  width : (timestamp left).length = 20
  parsed : timeParse general (timestamp left) = some (truncated left)

theorem likeTime (general : String → Option Time) {left right : Time}
    (hleft : InYears left) (hright : InYears right) :
    LikeTime general left right where
  order := timestamp_lt_iff hleft hright
  same := timestamp_inj hleft hright
  width := length_timestamp hleft
  parsed := timeParse_timestamp general hleft

/-- A condition that compares the texts of two instants compares the
instants. -/
structure DecidedByTime (condition : Prop) (left right : Time) : Prop where
  text : condition ↔ timestamp left < timestamp right
  time : condition ↔ truncated left < truncated right

theorem decidedByTime {left right : Time} (hleft : InYears left)
    (hright : InYears right) :
    DecidedByTime ((format left).before (format right) = true) left right where
  text := before_format hleft hright
  time := (before_format hleft hright).trans (timestamp_lt_iff hleft hright)

/-- The comparisons of timestamps in the stores and in the session limit. -/
structure ComparesByTime (cfg : AuthServiceConfig) : Prop where
  createOTP : ∀ (item : OTPItem) (expiry now : Time), InYears expiry →
    InYears now → item.expiresAt = format expiry → item.status ≠ .verified →
    DecidedByTime (otpReplaceable (format now) (some item) = true) expiry now
  listByUser : ∀ (store : Store) (userID sessionID : String)
    (item : SessionItem) (expiry now : Time), InYears expiry → InYears now →
    item.expiresAt = format expiry → item.userID = some userID →
    store.userSessionsIndex.lookup sessionID = some item →
    DecidedByTime (sessionID ∈ store.activeKeys userID (format now)) now expiry
  enforceSessionLimit : ∀ (sessions : List SessionRecord) (deviceID : String)
    (created : SessionRecord → Time), (∀ session ∈ sessions,
      InYears (created session) ∧
        session.createdAt = format (created session)) →
    (∀ left ∈ sessions, ∀ right ∈ sessions,
      DecidedByTime (left.createdAt.before right.createdAt = true)
        (created left) (created right)) ∧
    ∃ kept, Split
      (fun left right => truncated (created left) < truncated (created right))
      sessions deviceID (excessSessions cfg sessions deviceID) kept

theorem comparesByTime (cfg : AuthServiceConfig) : ComparesByTime cfg where
  createOTP := by
    intro item expiry now hexpiry hnow hitem hpending
    have hcondition : otpReplaceable (format now) (some item) =
        (format expiry).before (format now) := by
      simp [otpReplaceable, hitem, hpending]
    rw [hcondition]
    exact decidedByTime hexpiry hnow
  listByUser := by
    intro store userID sessionID item expiry now hexpiry hnow hitem huser
      hlisted
    have hcondition : sessionID ∈ store.activeKeys userID (format now) ↔
        (format now).before (format expiry) = true := by
      rw [mem_activeKeys]
      simp [hlisted, huser, hitem]
    rw [hcondition]
    exact decidedByTime hnow hexpiry
  enforceSessionLimit := by
    intro sessions deviceID created hcreated
    have hdecided : ∀ left ∈ sessions, ∀ right ∈ sessions,
        DecidedByTime (left.createdAt.before right.createdAt = true)
          (created left) (created right) := by
      intro left hleft right hright
      rw [(hcreated left hleft).2, (hcreated right hright).2]
      exact decidedByTime (hcreated left hleft).1 (hcreated right hright).1
    refine ⟨hdecided, ?_⟩
    obtain ⟨kept, hsplit⟩ := exists_split cfg
      (fun session => stamp session.createdAt) sessions deviceID
    have hexcess : excessSessionsBy cfg (fun session => stamp session.createdAt)
        sessions deviceID = excessSessions cfg sessions deviceID := by
      simp only [excessSessionsBy, excessSessions, before_eq_stamp]
    rw [hexcess] at hsplit
    have hlisted : ∀ session ∈ excessSessions cfg sessions deviceID ++ kept,
        session ∈ sessions := fun session hmem =>
      List.mem_of_mem_filter (hsplit.others.mem_iff.mpr hmem)
    refine ⟨kept, hsplit.others, hsplit.removed, ?_⟩
    intro survivor hsurvivor gone hgone hless
    have holder := (hdecided survivor
      (hlisted _ (List.mem_append_right _ hsurvivor)) gone
      (hlisted _ (List.mem_append_left _ hgone))).time.mpr hless
    rw [before_eq_stamp, decide_eq_true_eq] at holder
    exact hsplit.oldest survivor hsurvivor gone hgone holder

end Comparisons

section Parsing

variable {general : String → Option Time}

/-- The text is that of an instant, and it parses to the second of it. -/
def ParsesAsWritten (general : String → Option Time) (text : TimeText) : Prop :=
  ∃ instant, InYears instant ∧ text = format instant ∧
    timeParse general text.render = some (truncated instant) ∧
    parse text = some (truncated instant)

/-- No flow meets a stored timestamp that it cannot parse. -/
structure Parseable (general : String → Option Time) (pool : Pool) : Prop where
  records : ∀ phoneHash item,
    pool.store.otpRequests.lookup phoneHash = some item →
      ParsesAsWritten general item.expiresAt
  sessions : ∀ sessionID item,
    pool.store.sessions.lookup sessionID = some item →
      ParsesAsWritten general item.expiresAt
  indexed : ∀ sessionID item,
    pool.store.userSessionsIndex.lookup sessionID = some item →
      ParsesAsWritten general item.expiresAt
  returned : ∀ id call outcome, pool.calls.lookup id = some call →
    call.rest = .pure outcome → parseFailed outcome = false

theorem Written.parses {text : TimeText}
    (hwritten : Written clock pool.store.clock text) (hclock : InYears clock)
    (hnow : InYears (pool.store.clock + refreshTokenLifetime)) :
    ParsesAsWritten general text := by
  obtain ⟨instant, hfrom, hto, rfl⟩ := hwritten
  have hsecond : (0 : ℤ) < second := by decide
  have hyears : InYears instant := fourDigitYear_between hclock hnow
    (Int.ediv_le_ediv hsecond hfrom) (Int.ediv_le_ediv hsecond hto)
  exact ⟨instant, hyears, rfl, timeParse_timestamp general hyears, rfl⟩

/-- Timestamp texts order like time in the years 0000 to 9999: so the stores
and the session limit compare times, and in every run of the service within
these years the branches for timestamps that do not parse are not reached. -/
theorem timestamps_order_like_time (cfg : AuthServiceConfig)
    (general : String → Option Time) :
    (∀ left right, InYears left → InYears right →
      LikeTime general left right) ∧
    ComparesByTime cfg ∧
    ∀ admissible clock pool,
      (machine cfg).Reach admissible (start clock) pool → InYears clock →
      InYears (pool.store.clock + refreshTokenLifetime) →
      Parseable general pool := by
  refine ⟨fun left right => likeTime general, comparesByTime cfg, ?_⟩
  intro admissible clock pool hreach hclock hnow
  exact
    { records := fun _ _ hitem =>
        (record_written hreach hitem).parses hclock hnow
      sessions := fun _ _ hitem =>
        (session_written hreach hitem).expiresAt.parses hclock hnow
      indexed := fun _ _ hitem =>
        (indexed_written hreach hitem).expiresAt.parses hclock hnow
      returned := fun _ _ _ hcall hrest =>
        hreach.post_of_returned (sat_program_parses cfg) hcall hrest
          (readable_of_reach hreach hcall) }

/-- 29 February 2024, half a second before midnight. -/
def leapDay : Time := 1709251199 * second + 500000000

/-- The last second of a leap day and the first of March, and a registration
whose record and session parse. -/
theorem leapDay_timestamps :
    timestamp leapDay = "2024-02-29T23:59:59Z" ∧
    timestamp leapDay < timestamp (leapDay + second) ∧
    timeParse (fun _ => none) (timestamp leapDay) =
      some (1709251199 * second) ∧
    ∃ item, ((machine (deployment [])).runTo anyStep (start evening)
        registration).store.sessions.lookup session = some item ∧
      ParsesAsWritten (fun _ => none) item.expiresAt := by
  obtain ⟨hlike, -, hruns⟩ :=
    timestamps_order_like_time (deployment []) fun _ => none
  have hleap := hlike leapDay (leapDay + second) (by decide) (by decide)
  have hparses := hruns anyStep evening _ (Machine.reach_runTo registration)
    (by decide) (by decide +kernel)
  obtain ⟨item, hitem⟩ : ∃ item, ((machine (deployment [])).runTo anyStep
      (start evening) registration).store.sessions.lookup session =
        some item := Option.isSome_iff_exists.mp (by decide +kernel)
  exact ⟨by decide +kernel, hleap.order.mpr (by decide), hleap.parsed, item,
    hitem, hparses.sessions _ _ hitem⟩

end Parsing

end MessagingPlatform.WrittenTimestamps
