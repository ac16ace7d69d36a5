import MessagingPlatform.Adapter.Transactions
import MessagingPlatform.Core.Freshness
import MessagingPlatform.Core.Sequential
import MessagingPlatform.Store.Effects
import MessagingPlatform.System.ServiceRules

/-!
# Runs of the service

The invariant rule of the service joins the three views of a performed
request: the guard of the call that made it, its effect on the store, and what
its answer says about the store.  Freshness of identifiers is drawn from it
once.
-/

namespace MessagingPlatform.Runs

open Program
open Interleaving
open Instants
open Records
open Identifiers
open Primitives
open Tables
open Operations
open Effects
open Freshness
open MessagingPlatform.Sequential
open Stores
open Transactions
open VerifyRules
open Service
open ServiceRules

variable {cfg : AuthServiceConfig} {admissible : Pool → Label → Prop}
variable {clock : Time} {pool : Pool}

/-- A request that call `id` makes in `pool`, seen from the call and from the
store. -/
structure Exec (cfg : AuthServiceConfig) (pool : Pool) (id : ℕ) (call : Call)
    (op : Op) (response : op.Res) (after : Store) : Prop where
  lookup : pool.calls.lookup id = some call
  nextOp : pool.nextOp id = some op
  guarded : guard cfg call.req call.history op
  effect : Effect pool.store ⟨op, response⟩ after
  answers : Answers cfg pool.store ⟨op, response⟩

theorem exec_of_perform {id : ℕ} {choice : Choice} {call : Call} {op : Op}
    {next : op.Res → Prog Op Op.Res Outcome} {response : op.Res}
    {after : Store}
    (hreach : (machine cfg).Reach admissible (start clock) pool)
    (hlookup : pool.calls.lookup id = some call)
    (hrest : call.rest = .call op next)
    (hperform : perform cfg op choice pool.store = some (response, after)) :
    Exec cfg pool id call op response after where
  lookup := hlookup
  nextOp := Pool.nextOp_eq hlookup hrest
  guarded := hreach.guard_next (sat_program cfg) hlookup hrest
  effect := effect_of_perform hperform
  answers := answers_of_perform hperform

/-- The step of a call, with the choice that it was performed under. -/
theorem exec_of_step {id : ℕ} {choice : Choice} {call : Call} {reached : Pool}
    (hreach : (machine cfg).Reach admissible (start clock) pool)
    (hlookup : pool.calls.lookup id = some call)
    (hstep : (machine cfg).step pool (.exec id choice) = some reached) :
    ∃ op response after next, Exec cfg pool id call op response after ∧
      perform cfg op choice pool.store = some (response, after) ∧
      reached = pool.execCall id call op next response after := by
  rcases Machine.step_cases hstep with ⟨_, _, hlabel, -⟩ |
    ⟨other, chosen, found, op, next, response, after, hlabel, hfound, hrest,
      hperform, hreached⟩ | ⟨_, _, hlabel, -⟩
  · cases hlabel
  · cases hlabel
    rw [hlookup, Option.some.injEq] at hfound
    subst hfound
    exact ⟨op, response, after, next,
      exec_of_perform hreach hlookup hrest hperform, hperform, hreached⟩
  · cases hlabel

/-- Everything a step of the service can be. -/
theorem step_exec {label : Label} {next : Pool}
    (hreach : (machine cfg).Reach admissible (start clock) pool)
    (hstep : (machine cfg).step pool label = some next) :
    (∃ id req, label = .start id req ∧ pool.calls.lookup id = none ∧
      next = pool.startCall (machine cfg) id req) ∨
    (∃ id choice call op continueWith response after,
      label = .exec id choice ∧ Exec cfg pool id call op response after ∧
      next = pool.execCall id call op continueWith response after) ∨
    (∃ change after, label = .env change ∧
      advance change pool.store = some after ∧
      next = { pool with store := after }) := by
  rcases Machine.step_cases hstep with hstart |
    ⟨id, choice, call, op, continueWith, response, after, hlabel, hlookup,
      hrest, hperform, hnext⟩ | henv
  · exact Or.inl hstart
  · exact Or.inr (Or.inl ⟨id, choice, call, op, continueWith, response, after,
      hlabel, exec_of_perform hreach hlookup hrest hperform, hnext⟩)
  · exact Or.inr (Or.inr henv)

/-- Two runs one after the other, whatever each of them admits. -/
theorem reach_anyStep {earlier : Pool → Label → Prop} {origin first : Pool}
    (hbase : (machine cfg).Reach earlier origin first)
    (hreach : (machine cfg).Reach admissible first pool) :
    (machine cfg).Reach anyStep origin pool :=
  (hbase.mono fun _ _ _ => trivial).trans (hreach.mono fun _ _ _ => trivial)

/-- The invariant rule of the service, from a pool reached on. -/
theorem invariant_from {first : Pool} {I : Pool → Prop}
    {earlier : Pool → Label → Prop}
    (hbase : (machine cfg).Reach earlier (start clock) first)
    (hfirst : I first)
    (hstart : ∀ pool id req, (machine cfg).Reach admissible first pool →
      I pool → pool.calls.lookup id = none → admissible pool (.start id req) →
      (machine cfg).Reach admissible pool
        (pool.startCall (machine cfg) id req) →
      I (pool.startCall (machine cfg) id req))
    (hexec : ∀ pool id choice call op next response after,
      (machine cfg).Reach admissible first pool → I pool →
      Exec cfg pool id call op response after →
      admissible pool (.exec id choice) →
      (machine cfg).Reach admissible pool
        (pool.execCall id call op next response after) →
      I (pool.execCall id call op next response after))
    (henv : ∀ pool change after, (machine cfg).Reach admissible first pool →
      I pool → advance change pool.store = some after →
      admissible pool (.env change) →
      (machine cfg).Reach admissible pool { pool with store := after } →
      I { pool with store := after })
    (hreach : (machine cfg).Reach admissible first pool) : I pool := by
  induction hreach with
  | refl => exact hfirst
  | @step current following label hreach hadmissible hstep ih =>
      have hlater : (machine cfg).Reach admissible current following :=
        Machine.Reach.refl.step hadmissible hstep
      rcases step_exec (reach_anyStep hbase hreach) hstep with
        ⟨id, req, rfl, hlookup, rfl⟩ |
        ⟨id, choice, call, op, next, response, after, rfl, hexecuted, rfl⟩ |
        ⟨change, after, rfl, hadvance, rfl⟩
      · exact hstart current id req hreach ih hlookup hadmissible hlater
      · exact hexec current id choice call op next response after hreach ih
          hexecuted hadmissible hlater
      · exact henv current change after hreach ih hadvance hadmissible hlater

/-- The invariant rule of the service. -/
theorem invariant {I : Pool → Prop} (hfirst : I (start clock))
    (hstart : ∀ pool id req, (machine cfg).Reach admissible (start clock) pool →
      I pool → pool.calls.lookup id = none → admissible pool (.start id req) →
      (machine cfg).Reach admissible pool
        (pool.startCall (machine cfg) id req) →
      I (pool.startCall (machine cfg) id req))
    (hexec : ∀ pool id choice call op next response after,
      (machine cfg).Reach admissible (start clock) pool → I pool →
      Exec cfg pool id call op response after →
      admissible pool (.exec id choice) →
      (machine cfg).Reach admissible pool
        (pool.execCall id call op next response after) →
      I (pool.execCall id call op next response after))
    (henv : ∀ pool change after,
      (machine cfg).Reach admissible (start clock) pool → I pool →
      advance change pool.store = some after →
      admissible pool (.env change) →
      (machine cfg).Reach admissible pool { pool with store := after } →
      I { pool with store := after })
    (hreach : (machine cfg).Reach admissible (start clock) pool) : I pool := by
  have hbase : (machine cfg).Reach admissible (start clock) (start clock) :=
    .refl
  exact invariant_from hbase hfirst hstart hexec henv hreach

/-- The rule for the call under way when calls are served one by one. -/
theorem underway {first : Pool} {earlier : Pool → Label → Prop}
    {J : Request → History → Store → Prop}
    (hbase : (machine cfg).Reach earlier (start clock) first)
    (hquiescent : quiescent first = true)
    (honeByOne : ∀ current label,
      admissible current label → oneByOne current label)
    (hstart : ∀ pool req, (machine cfg).Reach admissible first pool →
      J req [] pool.store)
    (hexec : ∀ pool id choice call op response after,
      (machine cfg).Reach admissible first pool →
      Exec cfg pool id call op response after →
      admissible pool (.exec id choice) →
      J call.req call.history pool.store →
        J call.req (⟨op, response⟩ :: call.history) after)
    (henv : ∀ before after req history, Framed before after →
      J req history before → J req history after)
    (hreach : (machine cfg).Reach admissible first pool) {id : ℕ}
    {call : Call} (hcall : pool.calls.lookup id = some call)
    (hunfinished : call.rest.finished = false) :
    J call.req call.history pool.store := by
  refine Sequential.underway honeByOne hquiescent hstart ?_ ?_ hreach hcall
    hunfinished
  · intro pool id choice call op next response after hpool hlookup hrest
      hperform hadmissible hcurrent
    exact hexec pool id choice call op response after hpool
      (exec_of_perform (reach_anyStep hbase hpool) hlookup hrest hperform)
      hadmissible hcurrent
  · intro pool change after req history _ hadvance _ hcurrent
    exact henv _ _ req history (framed_of_advance hadvance) hcurrent

section Calls

variable {id : ℕ} {call : Call}

/-- A fact about performed requests that a run keeps holds of every entry of
every history, if it holds when the entry is made. -/
theorem forall_entries {F : Pool → Entry → Prop}
    (hkeep : ∀ pool later entry, F pool entry →
      (machine cfg).Reach admissible pool later → F later entry)
    (hnew : ∀ pool id choice call op next response after,
      (machine cfg).Reach admissible (start clock) pool →
      Exec cfg pool id call op response after →
      admissible pool (.exec id choice) →
      (machine cfg).Reach admissible pool
        (pool.execCall id call op next response after) →
      F (pool.execCall id call op next response after) ⟨op, response⟩)
    (hreach : (machine cfg).Reach admissible (start clock) pool)
    (hcall : pool.calls.lookup id = some call) :
    ∀ entry ∈ call.history, F pool entry := by
  refine invariant (I := fun pool => ∀ id call,
    pool.calls.lookup id = some call → ∀ entry ∈ call.history,
      F pool entry) ?_ ?_ ?_ ?_ hreach id call hcall
  · intro id call hcall
    simp [start, Pool.initial] at hcall
  · intro pool id req _ ih _ _ hlater other call hcall entry hentry
    rcases lookup_startCall hcall with ⟨-, hnil⟩ | hold
    · rw [hnil] at hentry
      cases hentry
    · exact hkeep _ _ _ (ih other call hold entry hentry) hlater
  · intro pool id choice call op next response after hpool ih hexec hallowed
      hlater other later hcall entry hentry
    rcases lookup_execCall hcall with ⟨-, -, hhistory⟩ | ⟨-, hold⟩
    · rw [hhistory] at hentry
      rcases List.mem_cons.mp hentry with rfl | hrest
      · exact hnew pool id choice call op next response after hpool hexec
          hallowed hlater
      · exact hkeep _ _ _ (ih id call hexec.lookup entry hrest) hlater
    · exact hkeep _ _ _ (ih other later hold entry hentry) hlater
  · intro pool change after _ ih _ _ hlater id call hcall entry hentry
    exact hkeep _ _ _ (ih id call hcall entry hentry) hlater

end Calls

section Time

variable {first : Pool}

/-- Time does not go back. -/
theorem clock_mono (hreach : (machine cfg).Reach admissible first pool) :
    first.store.clock ≤ pool.store.clock := by
  refine Machine.Reach.invariant (I := fun pool =>
    first.store.clock ≤ pool.store.clock) (le_refl _) ?_ ?_ ?_ hreach
  · intro pool id req _ ih _ _
    exact ih
  · intro pool id choice call op next response after _ ih _ _ hperform _
    exact ih.trans (effect_of_perform hperform).clock.ge
  · intro pool change after _ ih hadvance _
    exact ih.trans (framed_of_advance hadvance).clock

/-- Performed requests lie in the past. -/
theorem event_le_clock {event : Event}
    (hreach : (machine cfg).Reach admissible (start clock) pool)
    (hevent : event ∈ pool.log) : event.before.clock ≤ pool.store.clock := by
  refine invariant (I := fun pool => ∀ event ∈ pool.log,
    event.before.clock ≤ pool.store.clock) ?_ ?_ ?_ ?_ hreach event hevent
  · intro event hevent
    cases hevent
  · intro pool id req _ ih _ _ _
    exact ih
  · intro pool id choice call op next response after _ ih hexec _ _
    have hclock : after.clock = pool.store.clock := hexec.effect.clock
    rw [Pool.execCall, List.forall_mem_cons]
    dsimp only
    rw [hclock]
    exact ⟨le_refl _, ih⟩
  · intro pool change after _ ih hadvance _ _ event hevent
    exact (ih event hevent).trans (framed_of_advance hadvance).clock

/-- Clock readings lie in the past. -/
theorem read_le_clock {id : ℕ} {call : Call} {now : Time}
    (hreach : (machine cfg).Reach admissible (start clock) pool)
    (hcall : pool.calls.lookup id = some call)
    (hread : (⟨.clockNow, now⟩ : Entry) ∈ call.history) :
    now ≤ pool.store.clock := by
  refine forall_entries (F := fun pool entry => ∀ now,
    entry = ⟨.clockNow, now⟩ → now ≤ pool.store.clock) ?_ ?_ hreach hcall _
    hread now rfl
  · intro pool later entry hentry hlater now heq
    exact (hentry now heq).trans (clock_mono hlater)
  · intro pool id choice call op next response after _ hexec _ _ now heq
    cases heq
    have hnow : now = pool.store.clock := hexec.answers
    rw [hnow]
    exact hexec.effect.clock.ge

end Time

section Identifiers

/-- The random sources of the service. -/
def randomSources (cfg : AuthServiceConfig) : Supply (machine cfg) String where
  issued := Store.issued
  issue := issuedValue
  performs hperform := (effect_of_perform hperform).issued
  advances hadvance := (framed_of_advance hadvance).issued

theorem issued_nodup
    (hreach : (machine cfg).Reach admissible (start clock) pool) :
    (mentioned issuedValue pool.log).Nodup :=
  ((randomSources cfg).issued_eq rfl hreach).2

end Identifiers

end MessagingPlatform.Runs
