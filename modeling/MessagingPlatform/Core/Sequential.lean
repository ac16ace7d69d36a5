import MessagingPlatform.Core.Interleaving

/-!
# Calls served one after another

Runs in which a call arrives only when every earlier one has returned.  At
most one call is under way, so what it has learnt of the state can only be
undone by itself or by the environment: `underway` is the invariant rule for
the history of that call.
-/

namespace MessagingPlatform.Sequential

open Program
open Interleaving

variable {State Op : Type} {Res : Op → Type} {Choice Env Req Out : Type}

/-- Every call has returned. -/
def quiescent (pool : Pool State Op Res Req Out) : Bool :=
  pool.calls.entries.all fun row => row.2.rest.finished

/-- A call arrives only when every call has returned. -/
def oneByOne (pool : Pool State Op Res Req Out) :
    Label Choice Env Req → Prop
  | .start _ _ => quiescent pool = true
  | _ => True

instance (pool : Pool State Op Res Req Out) (label : Label Choice Env Req) :
    Decidable (oneByOne pool label) :=
  match label with
  | .start _ _ => inferInstanceAs (Decidable (quiescent pool = true))
  | .exec _ _ => isTrue trivial
  | .env _ => isTrue trivial

theorem finished_of_quiescent {pool : Pool State Op Res Req Out} {id : ℕ}
    {call : Call Op Res Req Out} (hquiescent : quiescent pool = true)
    (hcall : pool.calls.lookup id = some call) : call.rest.finished = true :=
  List.all_eq_true.mp hquiescent ⟨id, call⟩ (AList.mem_lookup_iff.mp hcall)

variable {machine : Machine State Op Res Choice Env Req Out}
variable {admissible : Pool State Op Res Req Out → Label Choice Env Req → Prop}
variable {first pool : Pool State Op Res Req Out}

/-- At most one call is under way. -/
theorem unfinished_unique
    (honeByOne : ∀ current label,
      admissible current label → oneByOne current label)
    (hquiescent : quiescent first = true)
    (hreach : machine.Reach admissible first pool) {id other : ℕ}
    {call call' : Call Op Res Req Out}
    (hcall : pool.calls.lookup id = some call)
    (hcall' : pool.calls.lookup other = some call')
    (hunfinished : call.rest.finished = false)
    (hunfinished' : call'.rest.finished = false) : id = other := by
  refine Machine.Reach.invariant (I := fun pool => ∀ id other call call',
    pool.calls.lookup id = some call → pool.calls.lookup other = some call' →
      call.rest.finished = false → call'.rest.finished = false → id = other)
    ?_ ?_ ?_ ?_ hreach id other call call' hcall hcall' hunfinished
    hunfinished'
  · intro id other call call' hcall _ hunfinished _
    rw [finished_of_quiescent hquiescent hcall] at hunfinished
    cases hunfinished
  · intro pool id req _ _ _ hadmissible left right call call' hcall hcall'
      hunfinished hunfinished'
    have hall : quiescent pool = true := honeByOne pool _ hadmissible
    have hnew : ∀ other call,
        (pool.startCall machine id req).calls.lookup other = some call →
        call.rest.finished = false → other = id := by
      intro other call hcall hunfinished
      by_contra hother
      rw [Pool.startCall, AList.lookup_insert_ne hother] at hcall
      rw [finished_of_quiescent hall hcall] at hunfinished
      cases hunfinished
    rw [hnew left call hcall hunfinished, hnew right call' hcall' hunfinished']
  · intro pool id choice call op next response after _ ih hlookup hrest _ _
      left right call' call'' hcall' hcall'' hunfinished hunfinished'
    have hbusy : call.rest.finished = false := by
      rw [hrest]
      rfl
    have hsame : ∀ other call',
        (pool.execCall id call op next response after).calls.lookup other =
          some call' → call'.rest.finished = false → other = id := by
      intro other call' hcall' hunfinished
      by_contra hother
      rw [Pool.execCall, AList.lookup_insert_ne hother] at hcall'
      exact hother (ih other id call' call hcall' hlookup hunfinished hbusy)
    rw [hsame left call' hcall' hunfinished,
      hsame right call'' hcall'' hunfinished']
  · intro pool change after _ ih _ _
    exact ih

/-- The rule for the call under way: what holds of a call that arrives, and is
kept by its own operations and by the environment, holds of a call that has
not returned. -/
theorem underway {J : Req → History Op Res → State → Prop}
    (honeByOne : ∀ current label,
      admissible current label → oneByOne current label)
    (hquiescent : quiescent first = true)
    (hstart : ∀ current req, machine.Reach admissible first current →
      J req [] current.store)
    (hexec : ∀ current id choice call op next response after,
      machine.Reach admissible first current →
      current.calls.lookup id = some call → call.rest = .call op next →
      machine.perform op choice current.store = some (response, after) →
      admissible current (.exec id choice) →
      J call.req call.history current.store →
        J call.req (⟨op, response⟩ :: call.history) after)
    (henv : ∀ current change after req history,
      machine.Reach admissible first current →
      machine.advance change current.store = some after →
      admissible current (.env change) → J req history current.store →
        J req history after)
    (hreach : machine.Reach admissible first pool) {id : ℕ}
    {call : Call Op Res Req Out} (hcall : pool.calls.lookup id = some call)
    (hunfinished : call.rest.finished = false) :
    J call.req call.history pool.store := by
  refine Machine.Reach.invariant (I := fun pool => ∀ id call,
    pool.calls.lookup id = some call → call.rest.finished = false →
      J call.req call.history pool.store) ?_ ?_ ?_ ?_ hreach id call hcall
    hunfinished
  · intro id call hcall hunfinished
    rw [finished_of_quiescent hquiescent hcall] at hunfinished
    cases hunfinished
  · intro pool id req hpool _ _ hadmissible other call hcall hunfinished
    have hall : quiescent pool = true := honeByOne pool _ hadmissible
    by_cases hother : other = id
    · subst other
      rw [Pool.startCall, AList.lookup_insert, Option.some.injEq] at hcall
      subst call
      exact hstart pool req hpool
    · rw [Pool.startCall, AList.lookup_insert_ne hother] at hcall
      rw [finished_of_quiescent hall hcall] at hunfinished
      cases hunfinished
  · intro pool id choice call op next response after hpool ih hlookup hrest
      hperform hadmissible other call' hcall' hunfinished
    have hbusy : call.rest.finished = false := by
      rw [hrest]
      rfl
    by_cases hother : other = id
    · subst other
      rw [Pool.execCall, AList.lookup_insert, Option.some.injEq] at hcall'
      subst call'
      exact hexec pool id choice call op next response after hpool hlookup
        hrest hperform hadmissible (ih id call hlookup hbusy)
    · rw [Pool.execCall, AList.lookup_insert_ne hother] at hcall'
      exact absurd (unfinished_unique honeByOne hquiescent hpool hcall'
        hlookup hunfinished hbusy) hother
  · intro pool change after hpool ih hadvance hadmissible id call hcall
      hunfinished
    exact henv pool change after call.req call.history hpool hadvance
      hadmissible (ih id call hcall hunfinished)

section WholeCalls

/-- No call arrives. -/
def noArrival (_ : Pool State Op Res Req Out) : Label Choice Env Req → Prop
  | .start _ _ => False
  | _ => True

instance (pool : Pool State Op Res Req Out) (label : Label Choice Env Req) :
    Decidable (noArrival pool label) :=
  match label with
  | .start _ _ => isFalse id
  | .exec _ _ => isTrue trivial
  | .env _ => isTrue trivial

/-- The operations of a call that runs alone, newest first, and the state they
lead to; between them the environment may change the state. -/
inductive Solo (machine : Machine State Op Res Choice Env Req Out)
    (permits : Choice → Prop) (first : State) : History Op Res → State → Prop
  | arrived : Solo machine permits first [] first
  | performed {older : History Op Res} {before after : State} {op : Op}
      {choice : Choice} {response : Res op}
      (hbefore : Solo machine permits first older before)
      (hpermits : permits choice)
      (hperform : machine.perform op choice before = some (response, after)) :
      Solo machine permits first (⟨op, response⟩ :: older) after
  | changed {history : History Op Res} {before after : State} {change : Env}
      (hbefore : Solo machine permits first history before)
      (hadvance : machine.advance change before = some after) :
      Solo machine permits first history after

variable {permits : Choice → Prop} {state reached : State}
variable {history : History Op Res}

/-- The last operation, and the environment after it. -/
theorem Solo.last {older : History Op Res} {entry : Entry Op Res}
    (hsolo : Solo machine permits state (entry :: older) reached) :
    ∃ before choice after, Solo machine permits state older before ∧
      permits choice ∧
      machine.perform entry.1 choice before = some (entry.2, after) ∧
      Solo machine permits after [] reached := by
  generalize hhistory : entry :: older = history at hsolo
  induction hsolo with
  | arrived => cases hhistory
  | @performed _ before after op choice response hbefore hpermits hperform _ =>
      obtain ⟨rfl, rfl⟩ := List.cons.inj hhistory
      exact ⟨before, choice, after, hbefore, hpermits, hperform, .arrived⟩
  | changed _ hadvance ih =>
      obtain ⟨before, choice, middle, hbefore, hpermits, hperform, hrest⟩ :=
        ih hhistory
      exact ⟨before, choice, middle, hbefore, hpermits, hperform,
        hrest.changed hadvance⟩

theorem Solo.idle {later : State}
    (hsolo : Solo machine permits state history reached)
    (hidle : Solo machine permits reached [] later) :
    Solo machine permits state history later := by
  generalize hnil : ([] : History Op Res) = none at hidle
  induction hidle with
  | arrived => exact hsolo
  | performed => cases hnil
  | changed _ hadvance ih => exact (ih hnil).changed hadvance

/-- The operations before a point, and those after it. -/
theorem Solo.split {newer older : History Op Res}
    (hsolo : Solo machine permits state (newer ++ older) reached) :
    ∃ middle, Solo machine permits state older middle ∧
      Solo machine permits middle newer reached := by
  induction newer generalizing reached with
  | nil => exact ⟨reached, hsolo, .arrived⟩
  | cons entry newer ih =>
      obtain ⟨before, choice, after, hbefore, hpermits, hperform, hidle⟩ :=
        hsolo.last
      obtain ⟨middle, holder, hnewer⟩ := ih hbefore
      exact ⟨middle, holder, (hnewer.performed hpermits hperform).idle hidle⟩

/-- Every operation was performed in some state, under a permitted choice. -/
theorem Solo.performed_of_mem
    (hsolo : Solo machine permits state history reached)
    {entry : Entry Op Res} (hentry : entry ∈ history) :
    ∃ before choice after, permits choice ∧
      machine.perform entry.1 choice before = some (entry.2, after) := by
  induction hsolo with
  | arrived => cases hentry
  | @performed _ before after _ choice _ _ hpermits hperform ih =>
      rcases List.mem_cons.mp hentry with rfl | hrest
      · exact ⟨before, choice, after, hpermits, hperform⟩
      · exact ih hrest
  | changed _ _ ih => exact ih hentry

variable {id : ℕ} {req : Req}

/-- A call that arrives when every call has returned runs alone for as long as
no other call arrives, and every other call stays as it is. -/
theorem solo_of_reach (permits : Choice → Prop)
    (hquiescent : quiescent first = true)
    (halone : ∀ current label,
      admissible current label → noArrival current label)
    (hpermits : ∀ current other choice,
      admissible current (.exec other choice) → permits choice)
    (hreach : machine.Reach admissible (first.startCall machine id req)
      pool) :
    (∃ call, pool.calls.lookup id = some call ∧ call.req = req ∧
      Solo machine permits first.store call.history pool.store) ∧
    ∀ other, other ≠ id →
      pool.calls.lookup other = first.calls.lookup other := by
  refine Machine.Reach.invariant (I := fun pool =>
    (∃ call, pool.calls.lookup id = some call ∧ call.req = req ∧
      Solo machine permits first.store call.history pool.store) ∧
    ∀ other, other ≠ id →
      pool.calls.lookup other = first.calls.lookup other) ?_ ?_ ?_ ?_ hreach
  · refine ⟨⟨_, AList.lookup_insert _, rfl, .arrived⟩, ?_⟩
    intro other hother
    exact AList.lookup_insert_ne hother
  · intro pool other req' _ _ _ hadmissible
    exact (halone _ _ hadmissible).elim
  · rintro pool other choice call op next response after _
      ⟨⟨current, hcurrent, hreq, hsolo⟩, hothers⟩ hlookup hrest hperform
      hadmissible
    -- Every other call has returned, so the operation is one of this call.
    have hother : other = id := by
      by_contra hother
      rw [hothers other hother] at hlookup
      have hfinished := finished_of_quiescent hquiescent hlookup
      rw [hrest] at hfinished
      cases hfinished
    subst other
    rw [hcurrent, Option.some.injEq] at hlookup
    subst hlookup
    refine ⟨⟨_, AList.lookup_insert _, hreq,
      hsolo.performed (hpermits pool id choice hadmissible) hperform⟩, ?_⟩
    intro other hother
    rw [Pool.execCall, AList.lookup_insert_ne hother]
    exact hothers other hother
  · rintro pool change after _ ⟨⟨call, hcall, hreq, hsolo⟩, hothers⟩ hadvance
      _
    exact ⟨⟨call, hcall, hreq, hsolo.changed hadvance⟩, hothers⟩

/-- When that call has returned too, every call has. -/
theorem quiescent_of_returned (hquiescent : quiescent first = true)
    (halone : ∀ current label,
      admissible current label → noArrival current label)
    (hreach : machine.Reach admissible (first.startCall machine id req) pool)
    {call : Call Op Res Req Out} (hcall : pool.calls.lookup id = some call)
    (hreturned : call.rest.finished = true) : quiescent pool = true := by
  have hothers := (solo_of_reach (fun _ => True) hquiescent halone
    (fun _ _ _ _ => trivial) hreach).2
  apply List.all_eq_true.mpr
  rintro ⟨other, returned⟩ hrow
  have hlookup : pool.calls.lookup other = some returned :=
    AList.mem_lookup_iff.mpr hrow
  by_cases hother : other = id
  · subst other
    rw [hcall, Option.some.injEq] at hlookup
    rw [← hlookup]
    exact hreturned
  · rw [hothers other hother] at hlookup
    exact finished_of_quiescent hquiescent hlookup

end WholeCalls

end MessagingPlatform.Sequential
