import MessagingPlatform.System.Consumption
import MessagingPlatform.System.VerifyWindows

/-!
# Wrong guesses at one code

Two things bound the wrong candidates compared with one record: the attempt
count that a verification reads with the record, and the window it is counted
in.  The count is read and incremented by separate requests, and a record
outlives a window, so neither bounds every run.  Each guess is noted with the
record it was made at and the window of its call.
-/

namespace MessagingPlatform.GuessLimit

open Program
open Interleaving
open Instants
open Primitives
open Tables
open Operations
open Effects
open Freshness
open VerifyRules
open Service
open ServiceRules
open MessagingPlatform.Runs
open Commits
open Consumption
open VerifyWindows
open Deployment

section Definitions

/-- The record of a phone that a call has read. -/
def readBy (phoneHash : String) (pool : Pool) (id : ℕ) : Option OTPItem :=
  (pool.calls.lookup id).bind fun call =>
    call.history.findSome? (recordRead phoneHash)

/-- The number of the record that a call has read: as many codes were stored
for the phone by then. -/
def recordNumber (phoneHash : String) (id : ℕ) : List Event → ℕ
  | [] => 0
  | event :: older =>
      if event.call = id ∧ (recordRead phoneHash event.entry).isSome then
        older.countP fun earlier => stores phoneHash earlier.entry
      else recordNumber phoneHash id older

/-- The window that a call was counted in. -/
def windowOf (phoneHash : String) (id : ℕ) (log : List Event) : Option ℕ :=
  ((tickets phoneHash log).find? fun ticket => ticket.call = id).map
    Ticket.window

/-- A candidate that does not have the MAC of the record it was compared
with. -/
def isWrong (phoneHash : String) : Entry → Bool
  | ⟨.verifyOTPMAC _ compared _ _, false⟩ => compared = phoneHash
  | _ => false

/-- A wrong candidate: the call that presented it, the record it was compared
with, and the window of the call. -/
structure Guess where
  call : ℕ
  record : ℕ
  window : Option ℕ
  deriving DecidableEq, Repr

def guessOf (phoneHash : String) (id : ℕ) (log : List Event) : Guess :=
  ⟨id, recordNumber phoneHash id log, windowOf phoneHash id log⟩

/-- The wrong guesses for a phone, newest first. -/
def guesses (phoneHash : String) : List Event → List Guess :=
  annotated fun event older =>
    if isWrong phoneHash event.entry then
      some (guessOf phoneHash event.call older)
    else none

/-- The wrong guesses at one record. -/
def guessesAt (phoneHash : String) (log : List Event) (record : ℕ) :
    List Guess :=
  (guesses phoneHash log).filter fun guess => guess.record = record

/-- The phone with whose record an operation compares a wrong candidate. -/
def comparedWrong (cfg : AuthServiceConfig) : Op → Option String
  | .verifyOTPMAC otpCandidate phoneHash expiresAt storedMAC =>
      if verifyOTPMAC cfg otpCandidate phoneHash expiresAt.render storedMAC
      then none
      else some phoneHash
  | _ => none

/-- When call `id` compares a wrong candidate, the attempt count it has read
covers the wrong guesses made at the record so far, or all of these fell into
the window of the call. -/
def Covered (cfg : AuthServiceConfig) (pool : Pool) (id : ℕ) (op : Op) :
    Prop :=
  ∀ phoneHash ∈ comparedWrong cfg op,
    (∃ item ∈ readBy phoneHash pool id,
      (guessesAt phoneHash pool.log
        (recordNumber phoneHash id pool.log)).length ≤ item.attemptCount) ∨
    ∀ guess ∈ guessesAt phoneHash pool.log
        (recordNumber phoneHash id pool.log),
      guess.window = windowOf phoneHash id pool.log

instance (cfg : AuthServiceConfig) (pool : Pool) (id : ℕ) (op : Op) :
    Decidable (Covered cfg pool id op) :=
  inferInstanceAs (Decidable (∀ _ ∈ comparedWrong cfg op, _ ∨ _))

end Definitions

variable {cfg : AuthServiceConfig} {admissible : Pool → Label → Prop}
variable {clock : Time} {pool : Pool} {phoneHash : String}

section Calls

theorem isWrong_eq_true {entry : Entry}
    (hwrong : isWrong phoneHash entry = true) :
    ∃ otpCandidate expiresAt storedMAC,
      entry = ⟨.verifyOTPMAC otpCandidate phoneHash expiresAt storedMAC,
        false⟩ := by
  unfold isWrong at hwrong
  split at hwrong
  · next otpCandidate compared expiresAt storedMAC =>
      rw [← of_decide_eq_true hwrong]
      exact ⟨otpCandidate, expiresAt, storedMAC, rfl⟩
  · cases hwrong

/-- Candidates are compared by verifications, after the reads of `tried`. -/
theorem attempt_of_guard {req : Request} {older : History}
    {otpCandidate storedMAC : String} {expiresAt : TimeText}
    (hguard : guard cfg req older
      (.verifyOTPMAC otpCandidate phoneHash expiresAt storedMAC)) :
    ∃ tried : Attempt, tried.Usable ∧
      older = ⟨.clockNow, tried.now⟩ :: tried.readEntries phoneHash := by
  cases req with
  | requestOTP phone clientIP => exact hguard.elim
  | verifyOTP phone presented deviceID =>
      obtain ⟨-, -, tried, husable, -, -, holder⟩ := hguard
      exact ⟨tried, husable, holder⟩
  | refreshTokens | logout => exact hguard.elim

variable {id : ℕ} {call : Call} {tried : Attempt}

/-- A call that is about to compare has a ticket that the limit let
through. -/
theorem ticket_of_attempt
    (hreach : (machine cfg).Reach admissible (start clock) pool)
    (hcall : pool.calls.lookup id = some call) (husable : tried.Usable)
    (hhistory : call.history =
      ⟨.clockNow, tried.now⟩ :: tried.readEntries phoneHash) :
    ∃ ticket ∈ tickets phoneHash pool.log, ticket.call = id ∧
      windowOf phoneHash id pool.log = some ticket.window ∧
      ticket.count ≤ maxOTPVerifyAttempts := by
  have hcounted : (⟨.redisEval (.otpVerifyPhone phoneHash)
      (wholeSeconds otpRateLimitWindow), .ok tried.count⟩ : Entry) ∈
      call.history := by
    simp [hhistory, Attempt.readEntries, limitEntries]
  obtain ⟨event, hevent, hid, hentry⟩ := hreach.event_of_mem hcall hcounted
  have hsome : ((tickets phoneHash pool.log).find?
      fun ticket => ticket.call = id).isSome := by
    obtain ⟨newer, older, hlog⟩ := List.append_of_mem hevent
    rw [List.find?_isSome]
    refine ⟨⟨id, windows phoneHash (event :: older), tried.count⟩, ?_, by simp⟩
    refine mem_annotated.mpr ⟨newer, event, older, hlog, ?_⟩
    simp [hentry, hid, countedAs]
  obtain ⟨ticket, hfind⟩ := Option.isSome_iff_exists.mp hsome
  have hmem := List.mem_of_find?_eq_some hfind
  have hticketCall : ticket.call = id := by simpa using List.find?_some hfind
  refine ⟨ticket, hmem, hticketCall, by simp [windowOf, hfind], ?_⟩
  -- The ticket was given for a count in the history, which has only one.
  obtain ⟨newer, counted, older, hlog, hnote⟩ := mem_annotated.mp hmem
  obtain ⟨count, hcount, rfl⟩ := Option.map_eq_some_iff.mp hnote
  obtain ⟨found, hfound, hsuffix⟩ := hreach.logSound.recorded counted
    (hlog ▸ List.mem_append_right newer List.mem_cons_self)
  rw [show counted.call = id from hticketCall, hcall,
    Option.some.injEq] at hfound
  have hin := hsuffix.subset List.mem_cons_self
  rw [← hfound, hhistory] at hin
  simp only [Attempt.readEntries, limitEntries, List.mem_cons,
    List.not_mem_nil, or_false] at hin
  rcases hin with hin | hin | hin | hin <;> rw [hin] at hcount
  · cases hcount
  · cases hcount
  · cases hcount
  · simp only [countedAs, if_true, Option.some.injEq] at hcount
    exact hcount ▸ husable.counted

/-- A call that is about to compare has made no guess yet. -/
theorem not_guessed
    (hreach : (machine cfg).Reach admissible (start clock) pool)
    (hcall : pool.calls.lookup id = some call)
    (hhistory : call.history =
      ⟨.clockNow, tried.now⟩ :: tried.readEntries phoneHash) :
    ∀ guess ∈ guesses phoneHash pool.log, guess.call ≠ id := by
  intro guess hguess hid
  obtain ⟨newer, event, older, hlog, hnote⟩ := mem_annotated.mp hguess
  split at hnote
  · next hwrong =>
      cases hnote
      obtain ⟨found, hfound, hsuffix⟩ := hreach.logSound.recorded event
        (hlog ▸ List.mem_append_right newer List.mem_cons_self)
      rw [show event.call = id from hid, hcall, Option.some.injEq] at hfound
      have hin := hsuffix.subset List.mem_cons_self
      rw [← hfound, hhistory] at hin
      obtain ⟨otpCandidate, expiresAt, storedMAC, hentry⟩ :=
        isWrong_eq_true hwrong
      simp [hentry, Attempt.readEntries, limitEntries] at hin
  · cases hnote

end Calls

section Bound

/-- The guesses of a phone: one per call, each with a ticket that the limit let
through, and at most five at each record. -/
structure Guessed (phoneHash : String) (pool : Pool) : Prop where
  calls : ((guesses phoneHash pool.log).map Guess.call).Nodup
  counted : ∀ guess ∈ guesses phoneHash pool.log,
    ∃ ticket ∈ tickets phoneHash pool.log, ticket.call = guess.call ∧
      guess.window = some ticket.window ∧
      ticket.count ≤ maxOTPVerifyAttempts
  limited : ∀ record,
    (guessesAt phoneHash pool.log record).length ≤ maxOTPVerifyAttempts

/-- Calls of one window make at most five guesses. -/
theorem length_le_of_window {made : List Guess} {window : ℕ}
    (hwindowed : Windowed phoneHash pool)
    (hcalls : (made.map Guess.call).Nodup)
    (hcounted : ∀ guess ∈ made, ∃ ticket ∈ tickets phoneHash pool.log,
      ticket.call = guess.call ∧ guess.window = some ticket.window ∧
      ticket.count ≤ maxOTPVerifyAttempts)
    (hwindow : ∀ guess ∈ made, guess.window = some window) :
    made.length ≤ maxOTPVerifyAttempts := by
  have hsubset : made.map Guess.call ⊆
      (admitted phoneHash pool.log window).map Ticket.call := by
    intro id hid
    obtain ⟨guess, hguess, rfl⟩ := List.mem_map.mp hid
    obtain ⟨ticket, hticket, hcall, hsame, hlimit⟩ := hcounted guess hguess
    rw [hwindow guess hguess, Option.some.injEq] at hsame
    refine List.mem_map.mpr ⟨ticket, ?_, hcall⟩
    simp [admitted, hticket, hsame, hlimit]
  calc
    made.length = (made.map Guess.call).length := by rw [List.length_map]
    _ ≤ ((admitted phoneHash pool.log window).map Ticket.call).length :=
        (hcalls.subperm hsubset).length_le
    _ = (admitted phoneHash pool.log window).length := by rw [List.length_map]
    _ ≤ maxOTPVerifyAttempts := length_admitted_le hwindowed window

variable {id : ℕ} {call : Call} {op : Op} {response : op.Res} {after : Store}
variable {next : op.Res → Prog Op Op.Res Outcome}

/-- One more guess, by a call that has made none. -/
theorem guessed_of_guess {later : Pool} {guess : Guess}
    (hguessed : Guessed phoneHash pool)
    (hguesses : guesses phoneHash later.log =
      guess :: guesses phoneHash pool.log)
    (htickets : tickets phoneHash pool.log ⊆ tickets phoneHash later.log)
    (hfresh : ∀ made ∈ guesses phoneHash pool.log, made.call ≠ guess.call)
    (hcounted : ∃ ticket ∈ tickets phoneHash pool.log,
      ticket.call = guess.call ∧ guess.window = some ticket.window ∧
      ticket.count ≤ maxOTPVerifyAttempts)
    (hlimited : (guessesAt phoneHash pool.log guess.record).length <
      maxOTPVerifyAttempts) :
    Guessed phoneHash later := by
  constructor
  · rw [hguesses, List.map_cons, List.nodup_cons]
    refine ⟨?_, hguessed.calls⟩
    intro hmem
    obtain ⟨made, hmade, hcall⟩ := List.mem_map.mp hmem
    exact hfresh made hmade hcall
  · rw [hguesses, List.forall_mem_cons]
    constructor
    · obtain ⟨ticket, hticket, hfacts⟩ := hcounted
      exact ⟨ticket, htickets hticket, hfacts⟩
    · intro made hmade
      obtain ⟨ticket, hticket, hfacts⟩ := hguessed.counted made hmade
      exact ⟨ticket, htickets hticket, hfacts⟩
  · intro record
    by_cases hrecord : guess.record = record
    · subst hrecord
      rw [guessesAt, hguesses, List.filter_cons_of_pos (by simp)]
      exact hlimited
    · rw [guessesAt, hguesses, List.filter_cons_of_neg (by simpa using hrecord)]
      exact hguessed.limited record

/-- A wrong candidate is compared with a record that has had fewer than five
guesses. -/
theorem length_guessesAt_lt {tried : Attempt}
    (hreach : (machine cfg).Reach admissible (start clock) pool)
    (hguessed : Guessed phoneHash pool)
    (hcall : pool.calls.lookup id = some call) (husable : tried.Usable)
    (hhistory : call.history =
      ⟨.clockNow, tried.now⟩ :: tried.readEntries phoneHash)
    (hcovered : (∃ item ∈ readBy phoneHash pool id,
        (guessesAt phoneHash pool.log
          (recordNumber phoneHash id pool.log)).length ≤ item.attemptCount) ∨
      ∀ guess ∈ guessesAt phoneHash pool.log
          (recordNumber phoneHash id pool.log),
        guess.window = windowOf phoneHash id pool.log) :
    (guessesAt phoneHash pool.log
      (recordNumber phoneHash id pool.log)).length < maxOTPVerifyAttempts := by
  rcases hcovered with ⟨item, hitem, hcount⟩ | hwindow
  · have hread : readBy phoneHash pool id = some tried.item := by
      simp [readBy, hcall, hhistory, Attempt.readEntries, List.findSome?,
        recordRead]
    rw [hread] at hitem
    cases hitem
    exact hcount.trans_lt husable.attempts
  · -- The guesses so far and the one being made are all of one window.
    obtain ⟨ticket, hticket, hticketCall, hwindowOf, hlimit⟩ :=
      ticket_of_attempt hreach hcall husable hhistory
    have hfresh := not_guessed hreach hcall hhistory
    have hlength : (guessOf phoneHash id pool.log ::
        guessesAt phoneHash pool.log
          (recordNumber phoneHash id pool.log)).length ≤
        maxOTPVerifyAttempts := by
      apply length_le_of_window (windowed phoneHash hreach)
      · rw [List.map_cons, List.nodup_cons]
        refine ⟨?_, hguessed.calls.sublist (List.filter_sublist.map _)⟩
        intro hmem
        obtain ⟨made, hmade, hmadeCall⟩ := List.mem_map.mp hmem
        exact hfresh made (List.mem_of_mem_filter hmade) hmadeCall
      · rw [List.forall_mem_cons]
        exact ⟨⟨ticket, hticket, hticketCall, hwindowOf, hlimit⟩,
          fun made hmade =>
            hguessed.counted made (List.mem_of_mem_filter hmade)⟩
      · rw [List.forall_mem_cons]
        exact ⟨hwindowOf, fun made hmade =>
          (hwindow made hmade).trans hwindowOf⟩
    exact hlength

theorem guessed_of_exec {next : op.Res → Prog Op Op.Res Outcome}
    (hreach : (machine cfg).Reach admissible (start clock) pool)
    (hguessed : Guessed phoneHash pool)
    (hexec : Exec cfg pool id call op response after)
    (hcovered : Covered cfg pool id op) :
    Guessed phoneHash (pool.execCall id call op next response after) := by
  have htickets : tickets phoneHash pool.log ⊆ tickets phoneHash
      (pool.execCall id call op next response after).log :=
    List.subset_append_right _ _
  have hguesses : guesses phoneHash
      (pool.execCall id call op next response after).log =
      (if isWrong phoneHash ⟨op, response⟩ then
        some (guessOf phoneHash id pool.log) else none).toList ++
        guesses phoneHash pool.log := rfl
  cases hwrong : isWrong phoneHash ⟨op, response⟩ with
  | false =>
      rw [hwrong, if_neg Bool.false_ne_true] at hguesses
      constructor
      · rw [hguesses]
        exact hguessed.calls
      · intro made hmade
        rw [hguesses] at hmade
        obtain ⟨ticket, hticket, hfacts⟩ := hguessed.counted made hmade
        exact ⟨ticket, htickets hticket, hfacts⟩
      · intro record
        rw [guessesAt, hguesses]
        exact hguessed.limited record
  | true =>
      rw [if_pos hwrong] at hguesses
      obtain ⟨otpCandidate, expiresAt, storedMAC, hentry⟩ :=
        isWrong_eq_true hwrong
      cases hentry
      have hanswer : false = verifyOTPMAC cfg otpCandidate phoneHash
        expiresAt.render storedMAC := hexec.answers
      obtain ⟨tried, husable, hhistory⟩ := attempt_of_guard hexec.guarded
      apply guessed_of_guess hguessed hguesses htickets
      · exact not_guessed hreach hexec.lookup hhistory
      · exact ticket_of_attempt hreach hexec.lookup husable hhistory
      · apply length_guessesAt_lt hreach hguessed hexec.lookup husable hhistory
        exact hcovered phoneHash (by simp [comparedWrong, ← hanswer])

end Bound

/-- Five guesses per code, in every run in which each wrong candidate is
covered by the attempt count read or by the window. -/
theorem five_guesses_per_code (cfg : AuthServiceConfig) (clock : Time)
    (pool : Pool)
    (hreach : (machine cfg).Reach (whenCalling (Covered cfg)) (start clock)
      pool) (phoneHash : String) (record : ℕ) :
    (guessesAt phoneHash pool.log record).length ≤ maxOTPVerifyAttempts := by
  have hguessed : Guessed phoneHash pool := by
    refine invariant (I := fun pool => Guessed phoneHash pool) ?_ ?_ ?_ ?_
      hreach
    · refine ⟨List.nodup_nil, ?_, fun record => Nat.zero_le _⟩
      intro guess hguess
      cases hguess
    · intro pool id req _ ih _ _ _
      exact ⟨ih.calls, ih.counted, ih.limited⟩
    · intro pool id choice call op next response after hpool ih hexec
        hcovered _
      exact guessed_of_exec hpool ih hexec (hcovered op hexec.nextOp)
    · intro pool change after _ ih _ _ _
      exact ⟨ih.calls, ih.counted, ih.limited⟩
  exact hguessed.limited record

/-- A wrong guess that is counted. -/
def guessing : List Choice := [.ok, .ok, .ok, .ok, .ok, .ok]

/-- A service whose code was guessed at twice. -/
def guessedTwice : Pool :=
  (machine (deployment [])).runTo (whenCalling (Covered (deployment [])))
    (start evening)
    (serve 0 (.requestOTP phone "203.0.113.7") (issuing 123456) ++
      serve 1 (.verifyOTP phone "000001" "device-a") guessing ++
      serve 2 (.verifyOTP phone "000002" "device-a") guessing)

theorem guessedTwice_limited :
    (guessesAt phoneDigest guessedTwice.log 1).length = 2 ∧
      (guessesAt phoneDigest guessedTwice.log 1).length ≤
        maxOTPVerifyAttempts :=
  ⟨by decide +kernel, five_guesses_per_code (deployment []) evening
    guessedTwice (Machine.reach_runTo _) phoneDigest 1⟩

/-- A verification opens a window; a code is stored near its end.  One guess
falls into the end of that window and is not counted on the record before the
next window begins, whose five guesses follow. -/
def guessedAcrossWindows : Pool :=
  (machine (deployment [])).runTo withoutFaults (start evening)
    (serve 0 (.verifyOTP phone "000001" "device-a") [.ok, .ok, .ok] ++
      [.env (.tick (evening + 700 * second))] ++
      serve 1 (.requestOTP phone "203.0.113.7") (issuing 123456) ++
      [.env (.tick (evening + 890 * second))] ++
      serve 2 (.verifyOTP phone "000001" "device-a") accepting ++
      [.env (.tick (evening + 900 * second))] ++
      serve 3 (.verifyOTP phone "000002" "device-a") guessing ++
      serve 4 (.verifyOTP phone "000003" "device-a") guessing ++
      serve 5 (.verifyOTP phone "000004" "device-a") guessing ++
      serve 6 (.verifyOTP phone "000005" "device-a") guessing ++
      serve 7 (.verifyOTP phone "000006" "device-a") guessing)

/-- Six wrong candidates are compared with one code, and no store call
fails. -/
theorem six_guesses_at_one_code :
    (machine (deployment [])).Reach withoutFaults (start evening)
        guessedAcrossWindows ∧
      (guessesAt phoneDigest guessedAcrossWindows.log 1).length = 6 ∧
      storedCodes guessedAcrossWindows phoneDigest = 1 :=
  ⟨Machine.reach_runTo _, by decide +kernel⟩

end MessagingPlatform.GuessLimit
