import MessagingPlatform.Core.Interleaving

/-!
# The order of performed operations

Facts that a state, once it has them, keeps: a relation between an earlier and
a later state that every step respects.  It holds between the states of any two
events of a log, in the order in which they were performed, and an operation in
the history of a call was performed before the ones that follow it there.
-/

namespace MessagingPlatform.Chronology

open Program
open Interleaving

variable {State Op : Type} {Res : Op → Type} {Choice Env Req Out : Type}
variable {machine : Machine State Op Res Choice Env Req Out}
variable {since : State → State → Prop}

/-- A relation from earlier to later states that the machine respects. -/
structure Respects (machine : Machine State Op Res Choice Env Req Out)
    (since : State → State → Prop) : Prop where
  refl : ∀ state, since state state
  trans : ∀ {first second third}, since first second → since second third →
    since first third
  performs : ∀ {op choice before response after},
    machine.perform op choice before = some (response, after) →
      since before after
  advances : ∀ {change before after},
    machine.advance change before = some after → since before after

/-- The earlier event was over when the later one began. -/
def Precedes (since : State → State → Prop)
    (earlier later : Event State Op Res) : Prop :=
  since earlier.after later.before

variable {admissible : Pool State Op Res Req Out → Label Choice Env Req → Prop}
variable {store : State} {pool : Pool State Op Res Req Out}
variable {event earlier later : Event State Op Res}

/-- Every event lies before the present state. -/
theorem Respects.since_event (hrespects : Respects machine since)
    (hreach : machine.Reach admissible (.initial store) pool)
    (hevent : event ∈ pool.log) : since event.after pool.store := by
  refine Machine.Reach.invariant (I := fun pool => ∀ event ∈ pool.log,
    since event.after pool.store) ?_ ?_ ?_ ?_ hreach event hevent
  · intro event hevent
    cases hevent
  · intro pool id req _ ih _ _
    exact ih
  · intro pool id choice call op next response after _ ih _ _ hperform _
    rw [Pool.execCall, List.forall_mem_cons]
    exact ⟨hrespects.refl after, fun event hevent =>
      hrespects.trans (ih event hevent) (hrespects.performs hperform)⟩
  · intro pool change after _ ih hadvance _ event hevent
    exact hrespects.trans (ih event hevent) (hrespects.advances hadvance)

/-- The log is in order, newest first. -/
theorem Respects.pairwise (hrespects : Respects machine since)
    (hreach : machine.Reach admissible (.initial store) pool) :
    pool.log.Pairwise fun later earlier => Precedes since earlier later := by
  refine Machine.Reach.invariant (I := fun pool =>
    pool.log.Pairwise fun later earlier => Precedes since earlier later)
    List.Pairwise.nil ?_ ?_ ?_ hreach
  · intro pool id req _ ih _ _
    exact ih
  · intro pool id choice call op next response after hpool ih _ _ _ _
    exact List.pairwise_cons.mpr
      ⟨fun event hevent => hrespects.since_event hpool hevent, ih⟩
  · intro pool change after _ ih _ _
    exact ih

/-- Of two events one comes first. -/
theorem Respects.precedes_or (hrespects : Respects machine since)
    (hreach : machine.Reach admissible (.initial store) pool)
    (hearlier : earlier ∈ pool.log) (hlater : later ∈ pool.log)
    (hne : earlier ≠ later) :
    Precedes since earlier later ∨ Precedes since later earlier := by
  have hsymm : Std.Symm fun left right : Event State Op Res =>
      Precedes since left right ∨ Precedes since right left :=
    ⟨fun _ _ => Or.symm⟩
  have hpairwise : pool.log.Pairwise fun left right =>
      Precedes since left right ∨ Precedes since right left :=
    (hrespects.pairwise hreach).imp Or.inr
  exact hpairwise.forall hearlier hlater hne

/-- What stands in the history of a call before an operation was performed
before it, after what stands before that. -/
theorem Respects.precedes_of_suffix (hrespects : Respects machine since)
    (hreach : machine.Reach admissible (.initial store) pool)
    (hevent : event ∈ pool.log) {entry : Entry Op Res}
    {older : History Op Res} (hsuffix : entry :: older <:+ event.older) :
    ∃ earlier ∈ pool.log, earlier.call = event.call ∧
      earlier.entry = entry ∧ earlier.older = older ∧
      Precedes since earlier event := by
  refine Machine.Reach.invariant (I := fun pool => ∀ event ∈ pool.log,
    ∀ entry older, entry :: older <:+ event.older → ∃ earlier ∈ pool.log,
      earlier.call = event.call ∧ earlier.entry = entry ∧
        earlier.older = older ∧ Precedes since earlier event) ?_ ?_ ?_ ?_
    hreach event hevent entry older hsuffix
  · intro event hevent
    cases hevent
  · intro pool id req _ ih _ _
    exact ih
  · intro pool id choice call op next response after hpool ih hlookup _ _ _
    rw [Pool.execCall, List.forall_mem_cons]
    constructor
    · intro entry older hsuffix
      obtain ⟨earlier, hearlier, hid, heq, hrest⟩ :=
        hpool.logSound.complete id call entry older hlookup hsuffix
      exact ⟨earlier, List.mem_cons_of_mem _ hearlier, hid, heq, hrest,
        hrespects.since_event hpool hearlier⟩
    · intro event hevent entry older hsuffix
      obtain ⟨earlier, hearlier, hfacts⟩ :=
        ih event hevent entry older hsuffix
      exact ⟨earlier, List.mem_cons_of_mem _ hearlier, hfacts⟩
  · intro pool change after _ ih _ _
    exact ih

theorem Respects.precedes_of_older (hrespects : Respects machine since)
    (hreach : machine.Reach admissible (.initial store) pool)
    (hevent : event ∈ pool.log) {entry : Entry Op Res}
    (hentry : entry ∈ event.older) :
    ∃ earlier ∈ pool.log, earlier.call = event.call ∧
      earlier.entry = entry ∧ Precedes since earlier event := by
  obtain ⟨newer, older, holder⟩ := List.append_of_mem hentry
  obtain ⟨earlier, hearlier, hid, heq, -, hprecedes⟩ :=
    hrespects.precedes_of_suffix hreach hevent ⟨newer, holder.symm⟩
  exact ⟨earlier, hearlier, hid, heq, hprecedes⟩

/-- The pool in which an event of the log was performed. -/
theorem Reach.at_event
    {newer older : List (Event State Op Res)}
    (hreach : machine.Reach admissible (.initial store) pool)
    (hlog : pool.log = newer ++ event :: older) :
    ∃ current call next, machine.Reach admissible (.initial store) current ∧
      current.log = older ∧ current.store = event.before ∧
      current.calls.lookup event.call = some call ∧
      call.history = event.older ∧ call.rest = .call event.entry.1 next := by
  induction hreach generalizing newer with
  | refl => simp [Pool.initial] at hlog
  | @step previous next label hprevious _ hstep ih =>
      rcases Machine.step_cases hstep with ⟨id, req, rfl, -, rfl⟩ |
        ⟨id, choice, call, op, continueWith, response, after, rfl, hlookup,
          hrest, -, rfl⟩ | ⟨change, after, rfl, -, rfl⟩
      · exact ih hlog
      · cases newer with
        | nil =>
            obtain ⟨rfl, rfl⟩ := List.cons.inj hlog
            exact ⟨previous, call, continueWith, hprevious, rfl, rfl, hlookup,
              rfl, hrest⟩
        | cons latest newer =>
            obtain ⟨-, hlog⟩ := List.cons.inj hlog
            exact ih hlog
      · exact ih hlog

end MessagingPlatform.Chronology
