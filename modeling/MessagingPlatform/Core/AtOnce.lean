import MessagingPlatform.Core.Sequential

/-!
# Calls that are served at once

Runs in which calls arrive and the environment acts only when every call has
returned, so that a call is one step of the whole.  `Whole` is such a step,
with everything it has performed, and `atOnce_invariant` is the invariant rule
over sequences of them.  `exists_returned` gives the other half: a call whose
operations can be performed returns.
-/

namespace MessagingPlatform.AtOnce

open Program
open Interleaving
open MessagingPlatform.Sequential

variable {State Op : Type} {Res : Op → Type} {Choice Env Req Out : Type}

/-- Calls arrive, and the environment acts, when every call has returned. -/
def atOnce (pool : Pool State Op Res Req Out) : Label Choice Env Req → Prop
  | .start _ _ => quiescent pool = true
  | .env _ => quiescent pool = true
  | .exec _ _ => True

instance (pool : Pool State Op Res Req Out) (label : Label Choice Env Req) :
    Decidable (atOnce pool label) :=
  match label with
  | .start _ _ => inferInstanceAs (Decidable (quiescent pool = true))
  | .env _ => inferInstanceAs (Decidable (quiescent pool = true))
  | .exec _ _ => isTrue trivial

/-- The operations of call `id`, newest first, performed one after another from
`first` on, each of them as `permits` allows. -/
inductive Alone (machine : Machine State Op Res Choice Env Req Out)
    (permits : History Op Res → Op → Choice → State → Prop) (id : ℕ)
    (first : State) : List (Event State Op Res) → State → Prop
  | arrived : Alone machine permits id first [] first
  | performed {events : List (Event State Op Res)} {before after : State}
      {op : Op} {choice : Choice} {response : Res op}
      (hbefore : Alone machine permits id first events before)
      (hpermits : permits (events.map Event.entry) op choice before)
      (hperform : machine.perform op choice before = some (response, after)) :
      Alone machine permits id first
        (⟨id, events.map Event.entry, ⟨op, response⟩, before, after⟩ ::
          events) after

/-- Call `id` arrives in `first` and is served at once; `ended` is the pool
after what it has performed so far. -/
structure Whole (machine : Machine State Op Res Choice Env Req Out)
    (permits : History Op Res → Op → Choice → State → Prop)
    (first ended : Pool State Op Res Req Out) (id : ℕ)
    (call : Call Op Res Req Out) (events : List (Event State Op Res)) :
    Prop where
  quiescent : quiescent first = true
  arrives : first.calls.lookup id = none
  lookup : ended.calls.lookup id = some call
  others : ∀ other, other ≠ id →
    ended.calls.lookup other = first.calls.lookup other
  history : call.history = events.map Event.entry
  log : ended.log = events ++ first.log
  alone : Alone machine permits id first.store events ended.store

variable {machine : Machine State Op Res Choice Env Req Out}
variable {permits : History Op Res → Op → Choice → State → Prop}
variable {admissible : Pool State Op Res Req Out → Label Choice Env Req → Prop}
variable {first pool : Pool State Op Res Req Out}

section Operations

variable {id : ℕ} {state reached : State} {events : List (Event State Op Res)}

/-- The last operation of a call. -/
theorem Alone.last {entry : Entry Op Res} {older : History Op Res}
    (halone : Alone machine permits id state events reached)
    (hhistory : events.map Event.entry = entry :: older) :
    ∃ rest before choice, older = rest.map Event.entry ∧
      Alone machine permits id state rest before ∧
      permits older entry.1 choice before ∧
      machine.perform entry.1 choice before = some (entry.2, reached) ∧
      events = ⟨id, older, entry, before, reached⟩ :: rest := by
  cases halone with
  | arrived => cases hhistory
  | @performed rest before _ op choice response hbefore hpermits hperform =>
      obtain ⟨rfl, rfl⟩ := List.cons.inj hhistory
      exact ⟨rest, before, choice, rfl, hbefore, hpermits, hperform, rfl⟩

theorem Alone.eq_first (halone : Alone machine permits id state events reached)
    (hhistory : events.map Event.entry = []) :
    events = [] ∧ reached = state := by
  cases halone with
  | arrived => exact ⟨rfl, rfl⟩
  | performed => cases hhistory

theorem Alone.call_eq (halone : Alone machine permits id state events reached) :
    ∀ event ∈ events, event.call = id := by
  induction halone with
  | arrived => simp
  | performed _ _ _ ih =>
      rw [List.forall_mem_cons]
      exact ⟨rfl, ih⟩

end Operations

/-- The step of a call that is served at once. -/
theorem Whole.step {ended : Pool State Op Res Req Out} {id : ℕ}
    {call : Call Op Res Req Out} {events : List (Event State Op Res)}
    {op : Op} {next : Res op → Prog Op Res Out} {choice : Choice}
    {response : Res op} {after : State}
    (hwhole : Whole machine permits first ended id call events)
    (hpermits : permits call.history op choice ended.store)
    (hperform : machine.perform op choice ended.store =
      some (response, after)) :
    Whole machine permits first
      (ended.execCall id call op next response after) id
      ⟨call.req, ⟨op, response⟩ :: call.history, next response⟩
      (⟨id, call.history, ⟨op, response⟩, ended.store, after⟩ :: events) where
  quiescent := hwhole.quiescent
  arrives := hwhole.arrives
  lookup := AList.lookup_insert _
  others := by
    intro other hother
    rw [Pool.execCall, AList.lookup_insert_ne hother]
    exact hwhole.others other hother
  history := by
    rw [hwhole.history]
    rfl
  log := by rw [Pool.execCall, hwhole.log, List.cons_append]
  alone := by
    rw [hwhole.history] at hpermits ⊢
    exact hwhole.alone.performed hpermits hperform

/-- When it has returned, every call has. -/
theorem Whole.quiescent_iff {ended : Pool State Op Res Req Out} {id : ℕ}
    {call : Call Op Res Req Out} {events : List (Event State Op Res)}
    (hwhole : Whole machine permits first ended id call events) :
    Sequential.quiescent ended = true ↔ call.rest.finished = true := by
  constructor
  · intro hquiescent
    exact finished_of_quiescent hquiescent hwhole.lookup
  · intro hreturned
    apply List.all_eq_true.mpr
    rintro ⟨other, found⟩ hrow
    have hlookup : ended.calls.lookup other = some found :=
      AList.mem_lookup_iff.mpr hrow
    by_cases hother : other = id
    · subst other
      rw [hwhole.lookup, Option.some.injEq] at hlookup
      rw [← hlookup]
      exact hreturned
    · rw [hwhole.others other hother] at hlookup
      exact finished_of_quiescent hwhole.quiescent hlookup

/-- While a call is served at once, every operation performed is its own. -/
theorem Whole.of_exec {current : Pool State Op Res Req Out} {id other : ℕ}
    {call found : Call Op Res Req Out} {events : List (Event State Op Res)}
    {op : Op} {next : Res op → Prog Op Res Out} {choice : Choice}
    {response : Res op} {after : State}
    (hwhole : Whole machine permits first current other found events)
    (hlookup : current.calls.lookup id = some call)
    (hrest : call.rest = .call op next)
    (hpermits : permits call.history op choice current.store)
    (hperform : machine.perform op choice current.store =
      some (response, after)) :
    id = other ∧ call = found ∧
      Whole machine permits first
        (current.execCall id call op next response after) id
        ⟨call.req, ⟨op, response⟩ :: call.history, next response⟩
        (⟨id, call.history, ⟨op, response⟩, current.store, after⟩ ::
          events) := by
  have hsame : id = other := by
    by_contra hother
    rw [hwhole.others id hother] at hlookup
    have hfinished := finished_of_quiescent hwhole.quiescent hlookup
    rw [hrest] at hfinished
    cases hfinished
  subst hsame
  rw [hwhole.lookup, Option.some.injEq] at hlookup
  subst hlookup
  exact ⟨rfl, rfl, hwhole.step hpermits hperform⟩

theorem Whole.arrived {id : ℕ} {req : Req}
    (hquiescent : Sequential.quiescent first = true)
    (harrives : first.calls.lookup id = none) :
    Whole machine permits first (first.startCall machine id req) id
      ⟨req, [], machine.program req⟩ [] where
  quiescent := hquiescent
  arrives := harrives
  lookup := AList.lookup_insert _
  others := fun _ hother => AList.lookup_insert_ne hother
  history := rfl
  log := rfl
  alone := .arrived

section Rule

variable {I : Pool State Op Res Req Out → Prop}

/-- Between calls the invariant holds; during a call it held when the call
arrived. -/
def Between (machine : Machine State Op Res Choice Env Req Out)
    (permits : History Op Res → Op → Choice → State → Prop)
    (admissible : Pool State Op Res Req Out → Label Choice Env Req → Prop)
    (I : Pool State Op Res Req Out → Prop)
    (first pool : Pool State Op Res Req Out) : Prop :=
  (quiescent pool = true → I pool) ∧
    (quiescent pool = false → ∃ before id call events,
      machine.Reach admissible first before ∧ I before ∧
        Whole machine permits before pool id call events)

variable
    (hatOnce : ∀ current label,
      admissible current label → atOnce current label)
    (hpermits : ∀ current id choice call op next,
      current.calls.lookup id = some call → call.rest = .call op next →
      admissible current (.exec id choice) →
        permits call.history op choice current.store)
    (hcall : ∀ before ended id call events,
      machine.Reach admissible first before →
      machine.Reach admissible first ended → I before →
      Whole machine permits before ended id call events →
      call.rest.finished = true → I ended)
    (henv : ∀ current change after, machine.Reach admissible first current →
      I current → machine.advance change current.store = some after →
      admissible current (.env change) → I { current with store := after })

include hcall in
theorem between_of_whole {before : Pool State Op Res Req Out} {id : ℕ}
    {call : Call Op Res Req Out} {events : List (Event State Op Res)}
    (hbefore : machine.Reach admissible first before)
    (hreach : machine.Reach admissible first pool) (hinvariant : I before)
    (hwhole : Whole machine permits before pool id call events) :
    Between machine permits admissible I first pool := by
  constructor
  · intro hquiescent
    exact hcall before pool id call events hbefore hreach hinvariant hwhole
      (hwhole.quiescent_iff.mp hquiescent)
  · intro _
    exact ⟨before, id, call, events, hbefore, hinvariant, hwhole⟩

include hatOnce hpermits hcall henv in
theorem between_of_reach (hquiescent : quiescent first = true)
    (hfirst : I first) (hreach : machine.Reach admissible first pool) :
    Between machine permits admissible I first pool := by
  induction hreach with
  | refl =>
      refine ⟨fun _ => hfirst, fun hbusy => ?_⟩
      rw [hquiescent] at hbusy
      cases hbusy
  | @step current following label hreach hadmissible hstep ih =>
      have hlater := hreach.step hadmissible hstep
      have hallowed := hatOnce current label hadmissible
      rcases Machine.step_cases hstep with ⟨id, req, rfl, harrives, rfl⟩ |
        ⟨id, choice, call, op, next, response, after, rfl, hlookup, hrest,
          hperform, rfl⟩ | ⟨change, after, rfl, hadvance, rfl⟩
      · exact between_of_whole hcall hreach hlater (ih.1 hallowed)
          (.arrived hallowed harrives)
      · have hbusy : quiescent current = false := by
          rw [← Bool.not_eq_true]
          intro hquiescent
          have hfinished := finished_of_quiescent hquiescent hlookup
          rw [hrest] at hfinished
          cases hfinished
        obtain ⟨before, other, found, events, hbefore, hinvariant, hwhole⟩ :=
          ih.2 hbusy
        obtain ⟨rfl, rfl, hnext⟩ := hwhole.of_exec hlookup hrest
          (hpermits current id choice call op next hlookup hrest hadmissible)
          hperform
        exact between_of_whole hcall hbefore hlater hinvariant hnext
      · refine ⟨fun _ => ?_, fun hbusy => ?_⟩
        · exact henv current change after hreach (ih.1 hallowed) hadvance
            hadmissible
        · change quiescent current = false at hbusy
          change quiescent current = true at hallowed
          rw [hallowed] at hbusy
          cases hbusy

variable (permits) in
include hatOnce hpermits hcall henv in
/-- The invariant rule for calls that are served at once: what a whole call and
the environment keep holds whenever every call has returned. -/
theorem atOnce_invariant (hquiescent : quiescent first = true)
    (hfirst : I first) (hreach : machine.Reach admissible first pool)
    (hreturned : quiescent pool = true) : I pool :=
  (between_of_reach hatOnce hpermits hcall henv hquiescent hfirst hreach).1
    hreturned

end Rule

section Permitting

/-- Every operation is one that `permits` allows after what its call has
done. -/
def permitting (permits : History Op Res → Op → Choice → State → Prop)
    (pool : Pool State Op Res Req Out) : Label Choice Env Req → Prop
  | .exec id choice => ∀ call ∈ pool.calls.lookup id, ∀ op ∈ call.nextOp,
      permits call.history op choice pool.store
  | _ => True

instance (permits : History Op Res → Op → Choice → State → Prop)
    [∀ older op choice store, Decidable (permits older op choice store)]
    (pool : Pool State Op Res Req Out) (label : Label Choice Env Req) :
    Decidable (permitting permits pool label) :=
  match label with
  | .start _ _ => isTrue trivial
  | .env _ => isTrue trivial
  | .exec id choice =>
      inferInstanceAs (Decidable (∀ call ∈ pool.calls.lookup id,
        ∀ op ∈ call.nextOp, permits call.history op choice pool.store))

theorem permits_of_permitting {id : ℕ} {choice : Choice}
    {call : Call Op Res Req Out} {op : Op} {next : Res op → Prog Op Res Out}
    (hlookup : pool.calls.lookup id = some call)
    (hrest : call.rest = .call op next)
    (hallowed : permitting permits pool
      (.exec id choice : Label Choice Env Req)) :
    permits call.history op choice pool.store := by
  refine hallowed call hlookup op ?_
  rw [Call.nextOp, hrest]
  rfl

end Permitting

section Progress

theorem rest_of_nextOp {id : ℕ} {call : Call Op Res Req Out} {op : Op}
    (hcall : pool.calls.lookup id = some call)
    (hnext : pool.nextOp id = some op) :
    ∃ next, call.rest = .call op next := by
  rw [Pool.nextOp, hcall, Option.bind_some, Call.nextOp] at hnext
  cases hrest : call.rest with
  | pure value =>
      rw [hrest] at hnext
      cases hnext
  | call found next =>
      rw [hrest, Option.some.injEq] at hnext
      subst hnext
      exact ⟨next, rfl⟩

/-- Calls go on, and nothing else happens. -/
def onlyExec (_ : Pool State Op Res Req Out) : Label Choice Env Req → Prop
  | .exec _ _ => True
  | _ => False

instance (pool : Pool State Op Res Req Out) (label : Label Choice Env Req) :
    Decidable (onlyExec pool label) :=
  match label with
  | .start _ _ => isFalse id
  | .env _ => isFalse id
  | .exec _ _ => isTrue trivial

theorem atOnce_of_onlyExec {label : Label Choice Env Req}
    (hallowed : onlyExec pool label) : atOnce pool label := by
  cases label with
  | exec id choice => trivial
  | start | env => exact hallowed.elim

/-- A call that arrives when every call has returned is served at once for as
long as nothing else happens. -/
theorem whole_of_reach
    (permits : History Op Res → Op → Choice → State → Prop) {id : ℕ} {req : Req}
    (honlyExec : ∀ current label,
      admissible current label → onlyExec current label)
    (hpermits : ∀ current id choice call op next,
      current.calls.lookup id = some call → call.rest = .call op next →
      admissible current (.exec id choice) →
        permits call.history op choice current.store)
    (hquiescent : quiescent first = true)
    (harrives : first.calls.lookup id = none)
    (hreach : machine.Reach admissible (first.startCall machine id req)
      pool) :
    ∃ call events, Whole machine permits first pool id call events ∧
      call.req = req := by
  refine Machine.Reach.invariant (I := fun pool => ∃ call events,
    Whole machine permits first pool id call events ∧ call.req = req)
    ⟨_, [], .arrived hquiescent harrives, rfl⟩ ?_ ?_ ?_ hreach
  · intro current other req' _ _ _ hadmissible
    exact (honlyExec _ _ hadmissible).elim
  · rintro current other choice call op next response after _
      ⟨found, events, hwhole, hreq⟩ hlookup hrest hperform hadmissible
    obtain ⟨rfl, rfl, hnext⟩ := hwhole.of_exec hlookup hrest
      (hpermits current other choice call op next hlookup hrest hadmissible)
      hperform
    exact ⟨_, _, hnext, hreq⟩
  · intro current change after _ _ _ hadmissible
    exact (honlyExec _ _ hadmissible).elim

/-- A call whose operations can be performed returns. -/
theorem exists_returned {id : ℕ} {call : Call Op Res Req Out}
    (hcall : pool.calls.lookup id = some call)
    (henabled : ∀ reached op, machine.Reach admissible pool reached →
      reached.nextOp id = some op →
      ∃ choice, admissible reached (.exec id choice) ∧
        (machine.perform op choice reached.store).isSome = true) :
    ∃ ended returned, machine.Reach admissible pool ended ∧
      ended.calls.lookup id = some returned ∧ returned.req = call.req ∧
      returned.rest.finished = true := by
  obtain ⟨req, history, rest⟩ := call
  induction rest generalizing pool history with
  | pure value =>
      exact ⟨pool, ⟨req, history, .pure value⟩, .refl, hcall, rfl, rfl⟩
  | call op next ih =>
      obtain ⟨choice, hadmissible, henables⟩ :=
        henabled pool op .refl (Pool.nextOp_eq hcall rfl)
      obtain ⟨⟨response, after⟩, hperform⟩ :=
        Option.isSome_iff_exists.mp henables
      have hstep : machine.step pool (.exec id choice) =
          some (pool.execCall id ⟨req, history, .call op next⟩ op next response
            after) := by
        simp [Machine.step, hcall, hperform]
      have hreach := Machine.Reach.refl.step hadmissible hstep
      obtain ⟨ended, returned, hended, hlookup, hreq, hfinished⟩ :=
        ih response
          (fun reached op hreached hnext =>
            henabled reached op (hreach.trans hreached) hnext)
          (⟨op, response⟩ :: history) (AList.lookup_insert _)
      exact ⟨ended, returned, hreach.trans hended, hlookup, hreq, hfinished⟩

end Progress

end MessagingPlatform.AtOnce
