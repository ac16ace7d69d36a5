import Mathlib

/-!
# Fixed windows

The calls that one counter has seen, newest first.  A call before the deadline
of the last window belongs to it; any other opens a window of its own, with a
deadline one window length later.  Of each window the first calls, up to the
limit, are allowed.
-/

namespace MessagingPlatform.FixedWindow

variable {T : Type} [AddCommGroup T] [LinearOrder T]

/-- The calls in windows, newest first. -/
def windows (length : T) : List T → List (List T)
  | [] => []
  | now :: earlier =>
      match windows length earlier with
      | [] => [[now]]
      | window :: older =>
          if window.getLast?.any fun opened => now < opened + length then
            (now :: window) :: older
          else [now] :: window :: older

/-- The calls of the last window. -/
def lastWindow (length : T) (times : List T) : List T :=
  (windows length times).headD []

/-- The call that opened the last window. -/
def opening (length : T) (times : List T) : Option T :=
  (lastWindow length times).getLast?

/-- The answers in a window with so many calls, newest first. -/
def verdicts (limit count : ℕ) : List Bool :=
  List.replicate (count - limit) false ++ List.replicate (min limit count) true

/-- Every call with its answer. -/
def judged (length : T) (limit : ℕ) (times : List T) : List (T × Bool) :=
  (windows length times).flatMap fun window =>
    window.zip (verdicts limit window.length)

section Windows

variable {length now opened : T} {times earlier : List T}

theorem windows_eq_nil_iff : windows length times = [] ↔ times = [] := by
  cases times with
  | nil => simp [windows]
  | cons now earlier =>
      simp only [windows, reduceCtorEq, iff_false]
      split
      · simp
      · split <;> simp

/-- A call before the deadline of the last window. -/
theorem windows_cons_of_lt (hopening : opening length earlier = some opened)
    (hlt : now < opened + length) :
    windows length (now :: earlier) =
      (now :: lastWindow length earlier) :: (windows length earlier).tail := by
  cases hwindows : windows length earlier with
  | nil => simp [opening, lastWindow, hwindows] at hopening
  | cons window older =>
      have hlast : window.getLast? = some opened := by
        simpa [opening, lastWindow, hwindows] using hopening
      simp [windows, lastWindow, hwindows, hlast, hlt]

/-- A call that opens a window. -/
theorem windows_cons_of_le
    (hle : ∀ opened, opening length earlier = some opened →
      opened + length ≤ now) :
    windows length (now :: earlier) = [now] :: windows length earlier := by
  cases hwindows : windows length earlier with
  | nil => simp [windows, hwindows]
  | cons window older =>
      have hlast : ∀ opened, window.getLast? = some opened →
          opened + length ≤ now := by
        simpa [opening, lastWindow, hwindows] using hle
      have hclosed : window.getLast?.any
          (fun opened => decide (now < opened + length)) = false := by
        cases hopened : window.getLast? with
        | none => rfl
        | some opened => simpa using hlast opened hopened
      simp [windows, hwindows, hclosed]

/-- Whether a call opens a window. -/
theorem opens_or_joins (length now : T) (earlier : List T) :
    (∃ opened, opening length earlier = some opened ∧
      now < opened + length) ∨
    ∀ opened, opening length earlier = some opened →
      opened + length ≤ now := by
  cases hopening : opening length earlier with
  | none => exact .inr fun opened hopened => by cases hopened
  | some opened =>
      rcases lt_or_ge now (opened + length) with hlt | hle
      · exact .inl ⟨opened, rfl, hlt⟩
      · refine .inr fun found hfound => ?_
        cases hfound
        exact hle

theorem lastWindow_cons_of_lt (hopening : opening length earlier = some opened)
    (hlt : now < opened + length) :
    lastWindow length (now :: earlier) = now :: lastWindow length earlier := by
  rw [lastWindow, windows_cons_of_lt hopening hlt, List.headD_cons]

theorem lastWindow_cons_of_le
    (hle : ∀ opened, opening length earlier = some opened →
      opened + length ≤ now) :
    lastWindow length (now :: earlier) = [now] := by
  rw [lastWindow, windows_cons_of_le hle, List.headD_cons]

theorem opening_cons_of_lt (hopening : opening length earlier = some opened)
    (hlt : now < opened + length) :
    opening length (now :: earlier) = some opened := by
  rw [opening] at hopening ⊢
  rw [lastWindow_cons_of_lt hopening hlt, List.getLast?_cons, hopening]
  rfl

theorem opening_cons_of_le
    (hle : ∀ opened, opening length earlier = some opened →
      opened + length ≤ now) :
    opening length (now :: earlier) = some now := by
  rw [opening, lastWindow_cons_of_le hle]
  rfl

/-- Calls before the deadline of a window belong to it. -/
theorem opening_append {later : List T}
    (hopening : opening length times = some opened)
    (hlater : ∀ time ∈ later, time < opened + length) :
    opening length (later ++ times) = some opened := by
  induction later with
  | nil => exact hopening
  | cons now later ih =>
      rw [List.forall_mem_cons] at hlater
      exact opening_cons_of_lt (ih hlater.2) hlater.1

theorem windows_eq_cons (hne : times ≠ []) :
    windows length times =
      lastWindow length times :: (windows length times).tail := by
  cases hwindows : windows length times with
  | nil => exact absurd (windows_eq_nil_iff.mp hwindows) hne
  | cons window older => simp [lastWindow, hwindows]

/-- The windows are a division of the calls. -/
theorem flatten_windows (length : T) (times : List T) :
    (windows length times).flatten = times := by
  induction times with
  | nil => rfl
  | cons now earlier ih =>
      rcases opens_or_joins length now earlier with
        ⟨opened, hopening, hlt⟩ | hle
      · have hne : earlier ≠ [] := by
          rintro rfl
          cases hopening
        rw [windows_cons_of_lt hopening hlt, List.flatten_cons,
          List.cons_append, ← List.flatten_cons, ← windows_eq_cons hne, ih]
      · rw [windows_cons_of_le hle, List.flatten_cons, ih]
        rfl

theorem opening_eq_none_iff : opening length times = none ↔ times = [] := by
  cases times with
  | nil => simp [opening, lastWindow, windows]
  | cons now earlier =>
      rcases opens_or_joins length now earlier with
        ⟨opened, hopening, hlt⟩ | hle
      · simp [opening_cons_of_lt hopening hlt]
      · simp [opening_cons_of_le hle]

theorem lastWindow_ne_nil (hne : times ≠ []) :
    lastWindow length times ≠ [] := by
  intro hnil
  have hopening : opening length times = none := by
    rw [opening, hnil]
    rfl
  exact hne (opening_eq_none_iff.mp hopening)

theorem opening_mem (hopening : opening length times = some opened) :
    opened ∈ times := by
  have hne : times ≠ [] := by
    rintro rfl
    cases hopening
  rw [← flatten_windows length times, windows_eq_cons hne, List.flatten_cons]
  exact List.mem_append_left _ (List.mem_of_getLast? hopening)

/-- What the next call is answered depends on the last window only. -/
theorem lastWindow_cons_congr {others : List T}
    (hsame : lastWindow length times = lastWindow length others) (now : T) :
    lastWindow length (now :: times) = lastWindow length (now :: others) := by
  have hopening : opening length times = opening length others := by
    rw [opening, opening, hsame]
  rcases opens_or_joins length now times with ⟨opened, hopened, hlt⟩ | hle
  · rw [lastWindow_cons_of_lt hopened hlt, hsame,
      lastWindow_cons_of_lt (hopening.symm.trans hopened) hlt]
  · rw [lastWindow_cons_of_le hle, lastWindow_cons_of_le]
    rw [← hopening]
    exact hle

end Windows

section Verdicts

variable {limit count : ℕ}

theorem length_verdicts (limit count : ℕ) :
    (verdicts limit count).length = count := by
  simp [verdicts]
  omega

/-- One more call in a window. -/
theorem verdicts_succ (limit count : ℕ) :
    verdicts limit (count + 1) =
      decide (count + 1 ≤ limit) :: verdicts limit count := by
  by_cases hle : count + 1 ≤ limit
  · have hnone : count + 1 - limit = 0 := by omega
    have hnone' : count - limit = 0 := by omega
    have hall : min limit (count + 1) = count + 1 := by omega
    have hall' : min limit count = count := by omega
    simp only [verdicts, hnone, hnone', hall, hall', hle, decide_true]
    rfl
  · have hmore : count + 1 - limit = count - limit + 1 := by omega
    have hsame : min limit (count + 1) = min limit count := by omega
    simp [verdicts, hmore, hsame, hle, List.replicate_succ]

theorem count_verdicts_le (limit count : ℕ) :
    ((verdicts limit count).filter id).length ≤ limit := by
  simp [verdicts]

variable {length now : T} {times earlier : List T}

theorem judged_eq_append (hne : times ≠ []) :
    judged length limit times =
      (lastWindow length times).zip
          (verdicts limit (lastWindow length times).length) ++
        (windows length times).tail.flatMap fun window =>
          window.zip (verdicts limit window.length) := by
  rw [judged, windows_eq_cons hne, List.flatMap_cons, List.tail_cons]

/-- A call is allowed if the calls of its window, with it, are within the
limit. -/
theorem judged_cons (length : T) (limit : ℕ) (now : T) (earlier : List T) :
    judged length limit (now :: earlier) =
      (now, decide ((lastWindow length (now :: earlier)).length ≤ limit)) ::
        judged length limit earlier := by
  rcases opens_or_joins length now earlier with ⟨opened, hopening, hlt⟩ | hle
  · have hne : earlier ≠ [] := by
      rintro rfl
      cases hopening
    rw [judged, windows_cons_of_lt hopening hlt, List.flatMap_cons,
      lastWindow_cons_of_lt hopening hlt, List.length_cons, verdicts_succ,
      List.zip_cons_cons, List.cons_append, judged_eq_append hne]
  · rw [judged, windows_cons_of_le hle, List.flatMap_cons,
      lastWindow_cons_of_le hle, List.length_singleton, verdicts_succ]
    rfl

theorem map_fst_judged (length : T) (limit : ℕ) (times : List T) :
    (judged length limit times).map Prod.fst = times := by
  induction times with
  | nil => rfl
  | cons now earlier ih => rw [judged_cons, List.map_cons, ih]

end Verdicts

section Bound

variable {length start : T} {limit : ℕ} {times : List T}

/-- The allowed calls of an interval of the length of a window. -/
def passes (length start : T) (call : T × Bool) : Bool :=
  call.2 && decide (start ≤ call.1) && decide (call.1 < start + length)

/-- No window has more allowed calls than the limit. -/
theorem passes_window_le (length start : T) (limit : ℕ) (window : List T) :
    ((window.zip (verdicts limit window.length)).filter
      (passes length start)).length ≤ limit := by
  have hallowed : ∀ call : T × Bool,
      passes length start call = true → call.2 = true := by
    intro call hpasses
    simp only [passes, Bool.and_eq_true] at hpasses
    exact hpasses.1.1
  calc ((window.zip (verdicts limit window.length)).filter
        (passes length start)).length
      ≤ ((window.zip (verdicts limit window.length)).filter
          Prod.snd).length := by
        simp only [← List.countP_eq_length_filter]
        exact List.countP_mono_left fun call _ => hallowed call
    _ = (((window.zip (verdicts limit window.length)).map Prod.snd).filter
          id).length := by
        rw [List.filter_map, List.length_map]
        rfl
    _ = ((verdicts limit window.length).filter id).length := by
        rw [List.map_snd_zip (by rw [length_verdicts])]
    _ ≤ limit := count_verdicts_le limit window.length

/-- A window is opened when the one before it has ended. -/
theorem opened_after {times window previous : List T} {older : List (List T)}
    (hwindows : windows length times = window :: previous :: older) :
    ∃ opened opened', window.getLast? = some opened ∧
      previous.getLast? = some opened' ∧ opened' + length ≤ opened := by
  induction times generalizing window with
  | nil => cases hwindows
  | cons now earlier ih =>
      rcases opens_or_joins length now earlier with
        ⟨opened, hopening, hlt⟩ | hle
      · have hne : earlier ≠ [] := by
          rintro rfl
          cases hopening
        rw [windows_cons_of_lt hopening hlt, List.cons.injEq] at hwindows
        obtain ⟨rfl, htail⟩ := hwindows
        obtain ⟨found, opened', hfound, hopened', hle⟩ :=
          ih (show windows length earlier =
            lastWindow length earlier :: previous :: older by
              rw [← htail, ← windows_eq_cons hne])
        refine ⟨found, opened', ?_, hopened', hle⟩
        rw [List.getLast?_cons, hfound]
        rfl
      · rw [windows_cons_of_le hle, List.cons.injEq] at hwindows
        obtain ⟨rfl, hrest⟩ := hwindows
        have hopening : opening length earlier = previous.getLast? := by
          rw [opening, lastWindow, hrest, List.headD_cons]
        have hne : earlier ≠ [] := by
          rintro rfl
          cases hrest
        cases hprevious : previous.getLast? with
        | none =>
            rw [hprevious] at hopening
            exact absurd (opening_eq_none_iff.mp hopening) hne
        | some opened' =>
            exact ⟨now, opened', rfl, rfl,
              hle opened' (hopening.trans hprevious)⟩

variable [IsOrderedAddMonoid T]

/-- The calls before the last two windows come before any interval of the
length of a window in which the last window was opened. -/
theorem older_lt {times window previous : List T} {older : List (List T)}
    (hsorted : times.Pairwise (· ≥ ·))
    (hwindows : windows length times = window :: previous :: older)
    (hbefore : ∀ time ∈ times, time < start + length) :
    ∀ time ∈ older.flatten, time < start := by
  obtain ⟨opened, opened', hopened, hopened', hle⟩ := opened_after hwindows
  have htimes : times = window ++ (previous ++ older.flatten) := by
    rw [← flatten_windows length times, hwindows]
    rfl
  have hlast : opened ∈ times := by
    rw [htimes]
    exact List.mem_append_left _ (List.mem_of_getLast? hopened)
  have hstart : opened' < start :=
    lt_of_add_lt_add_right (lt_of_le_of_lt hle (hbefore opened hlast))
  intro time htime
  rw [htimes, List.pairwise_append, List.pairwise_append] at hsorted
  exact lt_of_le_of_lt (hsorted.2.1.2.2 opened' (List.mem_of_getLast? hopened')
    time htime) hstart

/-- In an interval of the length of a window at most twice the limit of the
calls are allowed. -/
theorem passes_le (length start : T) (limit : ℕ) {times : List T}
    (hsorted : times.Pairwise (· ≥ ·)) :
    ((judged length limit times).filter (passes length start)).length ≤
      2 * limit := by
  induction times with
  | nil => simp [judged, windows]
  | cons now earlier ih =>
      obtain ⟨hnewest, hearlier⟩ := List.pairwise_cons.mp hsorted
      by_cases hlater : start + length ≤ now
      · have hout : passes length start (now, decide
            ((lastWindow length (now :: earlier)).length ≤ limit)) = false := by
          simp [passes, hlater]
        rw [judged_cons, List.filter_cons, hout]
        exact ih hearlier
      · have hbefore : ∀ time ∈ now :: earlier, time < start + length := by
          rw [List.forall_mem_cons]
          exact ⟨not_le.mp hlater, fun time htime =>
            lt_of_le_of_lt (hnewest time htime) (not_le.mp hlater)⟩
        rcases hwindows : windows length (now :: earlier) with
          _ | ⟨window, _ | ⟨previous, older⟩⟩
        · simp [judged, hwindows]
        · have hwindow := passes_window_le length start limit window
          simp only [judged, hwindows, List.flatMap_cons, List.flatMap_nil,
            List.append_nil]
          omega
        · have hwindow := passes_window_le length start limit window
          have hprevious := passes_window_le length start limit previous
          have hnone : (older.flatMap fun window =>
              window.zip (verdicts limit window.length)).filter
              (passes length start) = [] := by
            rw [List.filter_eq_nil_iff]
            rintro ⟨time, allowed⟩ hmem hpasses
            obtain ⟨found, hfound, hzip⟩ := List.mem_flatMap.mp hmem
            have hlt := older_lt hsorted hwindows hbefore time
              (List.mem_flatten.mpr ⟨found, hfound, (List.of_mem_zip hzip).1⟩)
            simp [passes, not_le.mpr hlt] at hpasses
          simp only [judged, hwindows, List.flatMap_cons, List.filter_append,
            List.length_append, hnone, List.length_nil]
          omega

end Bound

section OneWindow

variable {length now : T} {limit : ℕ} {later earlier : List T}

/-- The calls before one that opens a window come before it. -/
theorem earlier_lt [IsOrderedAddMonoid T] (hlength : 0 < length)
    (hsorted : earlier.Pairwise (· ≥ ·))
    (hopens : ∀ opened, opening length earlier = some opened →
      opened + length ≤ now) : ∀ time ∈ earlier, time < now := by
  cases earlier with
  | nil => simp
  | cons newest older =>
      have hnewest : newest < now := by
        rcases opens_or_joins length newest older with
          ⟨opened, hopening, hlt⟩ | hle
        · exact hlt.trans_le (hopens opened (opening_cons_of_lt hopening hlt))
        · exact (lt_add_of_pos_right newest hlength).trans_le
            (hopens newest (opening_cons_of_le hle))
      rw [List.forall_mem_cons]
      exact ⟨hnewest, fun time htime =>
        lt_of_le_of_lt ((List.pairwise_cons.mp hsorted).1 time htime) hnewest⟩

/-- The first call of a window opened it. -/
theorem opens_of_length_one
    (hone : (lastWindow length (now :: earlier)).length = 1) :
    ∀ opened, opening length earlier = some opened →
      opened + length ≤ now := by
  rcases opens_or_joins length now earlier with ⟨opened, hopening, hlt⟩ | hle
  · rw [lastWindow_cons_of_lt hopening hlt, List.length_cons,
      Nat.add_eq_right, List.length_eq_zero_iff] at hone
    rw [opening, hone] at hopening
    cases hopening
  · exact hle

/-- The calls before the deadline of a window, down to the one that opened it,
are the window. -/
theorem windows_append
    (hopens : ∀ opened, opening length earlier = some opened →
      opened + length ≤ now)
    (hlater : ∀ time ∈ later, time < now + length) :
    windows length (later ++ now :: earlier) =
      (later ++ [now]) :: windows length earlier := by
  induction later with
  | nil => exact windows_cons_of_le hopens
  | cons newest later ih =>
      rw [List.forall_mem_cons] at hlater
      have hwindows := ih hlater.2
      have hlast : lastWindow length (later ++ now :: earlier) =
          later ++ [now] := by
        rw [lastWindow, hwindows, List.headD_cons]
      have hopening : opening length (later ++ now :: earlier) = some now := by
        rw [opening, hlast, List.getLast?_append]
        rfl
      rw [List.cons_append, windows_cons_of_lt hopening hlater.1, hlast,
        hwindows, List.tail_cons, List.cons_append]

/-- None of the calls before a window counts in it. -/
theorem passes_before (hearlier : ∀ time ∈ earlier, time < now) :
    (judged length limit earlier).filter (passes length now) = [] := by
  rw [List.filter_eq_nil_iff]
  intro call hmem hpasses
  have htime : call.1 ∈ earlier := by
    rw [← map_fst_judged length limit earlier]
    exact List.mem_map_of_mem hmem
  simp [passes, not_le.mpr (hearlier call.1 htime)] at hpasses

variable [IsOrderedAddMonoid T]

/-- From the opening of a window to its deadline, no more calls are allowed than
the limit.  The induction drops the calls after the deadline. -/
theorem passes_opened_le (hlength : 0 < length)
    (hsorted : (later ++ now :: earlier).Pairwise (· ≥ ·))
    (hopens : ∀ opened, opening length earlier = some opened →
      opened + length ≤ now) :
    ((judged length limit (later ++ now :: earlier)).filter
      (passes length now)).length ≤ limit := by
  have hbefore : ∀ time ∈ earlier, time < now :=
    earlier_lt hlength
      (List.pairwise_cons.mp (List.pairwise_append.mp hsorted).2.1).2 hopens
  have hwithin : ∀ newer : List T, (∀ time ∈ newer, time < now + length) →
      ((judged length limit (newer ++ now :: earlier)).filter
        (passes length now)).length ≤ limit := by
    intro newer hnewer
    have hjudged : judged length limit (newer ++ now :: earlier) =
        (newer ++ [now]).zip (verdicts limit (newer ++ [now]).length) ++
          judged length limit earlier := by
      rw [judged, windows_append hopens hnewer, List.flatMap_cons, judged]
    rw [hjudged, List.filter_append, passes_before hbefore, List.append_nil]
    exact passes_window_le length now limit (newer ++ [now])
  induction later with
  | nil => exact hwithin [] (by simp)
  | cons newest later ih =>
      rw [List.cons_append, List.pairwise_cons] at hsorted
      by_cases hafter : now + length ≤ newest
      · have hout : passes length now (newest, decide ((lastWindow length
            (newest :: (later ++ now :: earlier))).length ≤ limit)) =
              false := by
          simp [passes, hafter]
        rw [List.cons_append, judged_cons, List.filter_cons, hout]
        exact ih hsorted.2
      · apply hwithin
        rw [List.forall_mem_cons]
        exact ⟨not_le.mp hafter, fun time htime =>
          lt_of_le_of_lt (hsorted.1 time (List.mem_append_left _ htime))
            (not_le.mp hafter)⟩

end OneWindow

section Total

variable {length first opened : T} {limit : ℕ} {times : List T}

omit [AddCommGroup T] [LinearOrder T] in
theorem allowed_window_le (limit : ℕ) (window : List T) :
    ((window.zip (verdicts limit window.length)).filter Prod.snd).length ≤
      limit := by
  calc ((window.zip (verdicts limit window.length)).filter Prod.snd).length
      = (((window.zip (verdicts limit window.length)).map Prod.snd).filter
          id).length := by
        rw [List.filter_map, List.length_map]
        rfl
    _ = ((verdicts limit window.length).filter id).length := by
        rw [List.map_snd_zip (by rw [length_verdicts])]
    _ ≤ limit := count_verdicts_le limit window.length

/-- No more calls are allowed than the limit, for each window. -/
theorem allowed_le (length : T) (limit : ℕ) (times : List T) :
    ((judged length limit times).filter Prod.snd).length ≤
      limit * (windows length times).length := by
  rw [judged]
  induction windows length times with
  | nil => simp
  | cons window older ih =>
      have hwindow := allowed_window_le limit window
      rw [List.flatMap_cons, List.filter_append, List.length_append,
        List.length_cons, mul_add, mul_one]
      omega

/-- Every window takes up its length.  The induction is on the calls; one that
joins a window leaves the number of windows as it is. -/
theorem span_le [IsOrderedAddMonoid T] (hfirst : ∀ time ∈ times, first ≤ time)
    (hopening : opening length times = some opened) :
    first + (windows length times).length • length ≤ opened + length := by
  induction times generalizing opened with
  | nil => cases hopening
  | cons now earlier ih =>
      rw [List.forall_mem_cons] at hfirst
      rcases opens_or_joins length now earlier with
        ⟨before, hbefore, hlt⟩ | hle
      · have hne : earlier ≠ [] := by
          rintro rfl
          cases hbefore
        have hsame := opening_cons_of_lt hbefore hlt
        rw [hopening, Option.some.injEq] at hsame
        subst hsame
        rw [windows_cons_of_lt hbefore hlt, List.length_cons,
          ← List.length_cons, ← windows_eq_cons hne]
        exact ih hfirst.2 hbefore
      · have hnow := opening_cons_of_le hle
        rw [hopening, Option.some.injEq] at hnow
        subst hnow
        rw [windows_cons_of_le hle, List.length_cons, succ_nsmul, ← add_assoc]
        apply add_le_add_left
        cases hearlier : opening length earlier with
        | none =>
            rw [opening_eq_none_iff.mp hearlier]
            simpa [windows] using hfirst.1
        | some before =>
            exact (ih hfirst.2 hearlier).trans (hle before hearlier)

end Total

section Removal

variable [IsOrderedAddMonoid T] {Call : Type} {length : T} {time : Call → T}
variable {keep : Call → Bool}

/-- A call at least a window length after all others opens a window. -/
theorem lastWindow_of_apart {times : List T} {now bound : T}
    (hbound : ∀ earlier ∈ times, earlier ≤ bound)
    (hapart : bound + length ≤ now) :
    lastWindow length (now :: times) = [now] := by
  refine lastWindow_cons_of_le fun opened hopening => ?_
  exact (add_le_add_left (hbound opened (opening_mem hopening)) length).trans
    hapart

/-- Calls can be left out without a trace in the window of a later one if
every call that stays comes at least a window length after them. -/
theorem lastWindow_filter (calls : List Call) (now : T)
    (hsorted : (calls.map time).Pairwise (· ≥ ·))
    (hapart : calls.Pairwise fun later earlier =>
      keep earlier = false → keep later = true →
        time earlier + length ≤ time later)
    (hnow : ∀ call ∈ calls, keep call = false → time call + length ≤ now) :
    lastWindow length (now :: (calls.filter keep).map time) =
      lastWindow length (now :: calls.map time) := by
  induction calls generalizing now with
  | nil => rfl
  | cons call earlier ih =>
      rw [List.map_cons, List.pairwise_cons] at hsorted
      rw [List.pairwise_cons] at hapart
      rw [List.forall_mem_cons] at hnow
      have hbound : ∀ before ∈ earlier.map time, before ≤ time call :=
        hsorted.1
      cases hkeep : keep call with
      | false =>
          have hended := hnow.1 hkeep
          rw [List.filter_cons_of_neg (by simp [hkeep]), List.map_cons,
            lastWindow_of_apart _ hended, lastWindow_of_apart _ hended]
          · rw [List.forall_mem_cons]
            exact ⟨le_rfl, hbound⟩
          · intro before hbefore
            obtain ⟨kept, hkept, rfl⟩ := List.mem_map.mp hbefore
            exact hbound _
              (List.mem_map_of_mem (List.mem_of_mem_filter hkept))
      | true =>
          rw [List.filter_cons_of_pos hkeep, List.map_cons, List.map_cons]
          refine lastWindow_cons_congr (ih (time call) hsorted.2 hapart.2 ?_)
            now
          intro dropped hdropped hleft
          exact hapart.1 dropped hdropped hleft hkeep

end Removal

end MessagingPlatform.FixedWindow
