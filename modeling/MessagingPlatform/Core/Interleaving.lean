import MessagingPlatform.Core.Program

/-!
# Interleaved calls over a shared state

A machine runs any number of calls against one shared state.  A call is a
program; in one step of the machine one call performs its next operation
atomically, a new call arrives, or the environment changes the state.  All
non-determinism of an operation is an explicit choice, so a schedule is a list
of labels and a run is computed from it.

The pool keeps, beside the state and the calls, a log of all performed
operations with the states before and after.  Nothing reads the log; it only
lets statements about whole runs be statements about the pool reached.
-/

namespace MessagingPlatform.Interleaving

open Program

variable {State Op : Type} {Res : Op → Type} {Choice Env Req Out : Type}

/-- The programs served, the effect of each operation under each choice, and
the effect of the environment.  `none` marks a choice that cannot occur. -/
structure Machine (State Op : Type) (Res : Op → Type)
    (Choice Env Req Out : Type) where
  program : Req → Prog Op Res Out
  perform : (op : Op) → Choice → State → Option (Res op × State)
  advance : Env → State → Option State

/-- A call: what was asked, what it has performed, what it still has to do. -/
structure Call (Op : Type) (Res : Op → Type) (Req Out : Type) where
  req : Req
  history : History Op Res
  rest : Prog Op Res Out

/-- A performed operation.  `older` is the history of the call before it. -/
structure Event (State Op : Type) (Res : Op → Type) where
  call : ℕ
  older : History Op Res
  entry : Entry Op Res
  before : State
  after : State

structure Pool (State Op : Type) (Res : Op → Type) (Req Out : Type) where
  store : State
  calls : AList fun _ : ℕ => Call Op Res Req Out
  log : List (Event State Op Res)

inductive Label (Choice Env Req : Type) where
  | start (id : ℕ) (req : Req)
  | exec (id : ℕ) (choice : Choice)
  | env (change : Env)

/-- The pool before any call has arrived. -/
def Pool.initial (store : State) : Pool State Op Res Req Out :=
  ⟨store, ∅, []⟩

/-- The pool after the arrival of a call. -/
def Pool.startCall (machine : Machine State Op Res Choice Env Req Out)
    (pool : Pool State Op Res Req Out) (id : ℕ) (req : Req) :
    Pool State Op Res Req Out :=
  { pool with calls := pool.calls.insert id ⟨req, [], machine.program req⟩ }

/-- The pool after call `id` has performed `op`. -/
def Pool.execCall (pool : Pool State Op Res Req Out) (id : ℕ)
    (call : Call Op Res Req Out) (op : Op) (next : Res op → Prog Op Res Out)
    (response : Res op) (after : State) : Pool State Op Res Req Out where
  store := after
  calls := pool.calls.insert id
    ⟨call.req, ⟨op, response⟩ :: call.history, next response⟩
  log := ⟨id, call.history, ⟨op, response⟩, pool.store, after⟩ :: pool.log

section Calls

variable {pool : Pool State Op Res Req Out} {id other : ℕ}
variable {call later : Call Op Res Req Out} {op : Op} {response : Res op}
variable {next : Res op → Prog Op Res Out} {after : State}

/-- The call found after a request is the one that made it, one entry longer,
or was there before. -/
theorem lookup_execCall
    (hlater : (pool.execCall id call op next response after).calls.lookup
      other = some later) :
    (other = id ∧ later.req = call.req ∧
      later.history = ⟨op, response⟩ :: call.history) ∨
    (other ≠ id ∧ pool.calls.lookup other = some later) := by
  by_cases hother : other = id
  · subst other
    rw [Pool.execCall, AList.lookup_insert, Option.some.injEq] at hlater
    subst later
    exact Or.inl ⟨rfl, rfl, rfl⟩
  · rw [Pool.execCall, AList.lookup_insert_ne hother] at hlater
    exact Or.inr ⟨hother, hlater⟩

/-- The call found after an arrival is new or was there before. -/
theorem lookup_startCall {machine : Machine State Op Res Choice Env Req Out}
    {req : Req}
    (hlater : (pool.startCall machine id req).calls.lookup other =
      some later) :
    (later.req = req ∧ later.history = []) ∨
      pool.calls.lookup other = some later := by
  by_cases hother : other = id
  · subst other
    rw [Pool.startCall, AList.lookup_insert, Option.some.injEq] at hlater
    subst later
    exact Or.inl ⟨rfl, rfl⟩
  · rw [Pool.startCall, AList.lookup_insert_ne hother] at hlater
    exact Or.inr hlater

end Calls

/-- The operation a call is about to perform. -/
def Call.nextOp (call : Call Op Res Req Out) : Option Op :=
  match call.rest with
  | .pure _ => none
  | .call op _ => some op

def Pool.nextOp (pool : Pool State Op Res Req Out) (id : ℕ) : Option Op :=
  (pool.calls.lookup id).bind Call.nextOp

theorem Pool.nextOp_eq {pool : Pool State Op Res Req Out} {id : ℕ}
    {call : Call Op Res Req Out} {op : Op} {next : Res op → Prog Op Res Out}
    (hcall : pool.calls.lookup id = some call)
    (hrest : call.rest = .call op next) : pool.nextOp id = some op := by
  simp [Pool.nextOp, hcall, Call.nextOp, hrest]

/-- A call that is about to perform an operation has not returned. -/
theorem Pool.unfinished_of_nextOp {pool : Pool State Op Res Req Out} {id : ℕ}
    {call : Call Op Res Req Out} {op : Op}
    (hcall : pool.calls.lookup id = some call)
    (hnext : pool.nextOp id = some op) : call.rest.finished = false := by
  rw [Pool.nextOp, hcall, Option.bind_some, Call.nextOp] at hnext
  cases hrest : call.rest with
  | pure value =>
      rw [hrest] at hnext
      cases hnext
  | call op next => rfl

/-- A step condition on the state in which operations are performed. -/
def whenPerforming (condition : State → Op → Prop)
    (pool : Pool State Op Res Req Out) : Label Choice Env Req → Prop
  | .exec id _ => ∀ op, pool.nextOp id = some op → condition pool.store op
  | _ => True

instance (condition : State → Op → Prop)
    [∀ store op, Decidable (condition store op)]
    (pool : Pool State Op Res Req Out) (label : Label Choice Env Req) :
    Decidable (whenPerforming condition pool label) :=
  match label with
  | .start _ _ => isTrue trivial
  | .env _ => isTrue trivial
  | .exec id _ =>
      match hnext : pool.nextOp id with
      | none => isTrue fun op hop => by
          rw [hnext] at hop
          cases hop
      | some next =>
          decidable_of_iff (condition pool.store next)
            ⟨fun hcondition op hop => by
              rw [hnext] at hop
              cases hop
              exact hcondition, fun hall => hall next hnext⟩

/-- A step condition on the pool in which a call performs an operation. -/
def whenCalling (condition : Pool State Op Res Req Out → ℕ → Op → Prop)
    (pool : Pool State Op Res Req Out) : Label Choice Env Req → Prop
  | .exec id _ => ∀ op ∈ pool.nextOp id, condition pool id op
  | _ => True

instance (condition : Pool State Op Res Req Out → ℕ → Op → Prop)
    [∀ pool id op, Decidable (condition pool id op)]
    (pool : Pool State Op Res Req Out) (label : Label Choice Env Req) :
    Decidable (whenCalling condition pool label) :=
  match label with
  | .start _ _ => isTrue trivial
  | .env _ => isTrue trivial
  | .exec id _ =>
      inferInstanceAs (Decidable (∀ op ∈ pool.nextOp id, condition pool id op))

/-- There is always an unused number for another call. -/
theorem Pool.exists_fresh (pool : Pool State Op Res Req Out) :
    ∃ id, pool.calls.lookup id = none := by
  obtain ⟨id, hid⟩ := Infinite.exists_notMem_finset pool.calls.keys.toFinset
  refine ⟨id, AList.lookup_eq_none.mpr fun hmem => hid ?_⟩
  exact List.mem_toFinset.mpr (AList.mem_keys.mp hmem)

namespace Machine

variable (machine : Machine State Op Res Choice Env Req Out)

/-- One step.  A label that is not enabled has no successor. -/
def step (pool : Pool State Op Res Req Out) :
    Label Choice Env Req → Option (Pool State Op Res Req Out)
  | .start id req =>
      match pool.calls.lookup id with
      | none => some (pool.startCall machine id req)
      | some _ => none
  | .exec id choice =>
      match pool.calls.lookup id with
      | none => none
      | some call =>
          match call.rest with
          | .pure _ => none
          | .call op next =>
              match machine.perform op choice pool.store with
              | none => none
              | some (response, after) =>
                  some (pool.execCall id call op next response after)
  | .env change =>
      match machine.advance change pool.store with
      | none => none
      | some after => some { pool with store := after }

/-- Follow a schedule, refusing labels that `allowed` rejects. -/
def run (allowed : Pool State Op Res Req Out → Label Choice Env Req → Bool) :
    Pool State Op Res Req Out → List (Label Choice Env Req) →
      Option (Pool State Op Res Req Out)
  | pool, [] => some pool
  | pool, label :: labels =>
      if allowed pool label then
        (machine.step pool label).bind fun next => run allowed next labels
      else none

/-- The pools that runs starting in `first` reach when every step satisfies
`admissible` in the pool it is taken in. -/
inductive Reach
    (admissible : Pool State Op Res Req Out → Label Choice Env Req → Prop)
    (first : Pool State Op Res Req Out) :
    Pool State Op Res Req Out → Prop
  | refl : Reach admissible first first
  | step {pool next : Pool State Op Res Req Out}
      {label : Label Choice Env Req}
      (hreach : Reach admissible first pool)
      (hadmissible : admissible pool label)
      (hstep : machine.step pool label = some next) :
      Reach admissible first next

variable {machine}
variable {admissible : Pool State Op Res Req Out → Label Choice Env Req → Prop}
variable {first pool : Pool State Op Res Req Out}

/-- Everything a step can be. -/
theorem step_cases {label : Label Choice Env Req}
    {next : Pool State Op Res Req Out}
    (hstep : machine.step pool label = some next) :
    (∃ id req, label = .start id req ∧ pool.calls.lookup id = none ∧
      next = pool.startCall machine id req) ∨
    (∃ id choice call op continueWith response after,
      label = .exec id choice ∧ pool.calls.lookup id = some call ∧
      call.rest = .call op continueWith ∧
      machine.perform op choice pool.store = some (response, after) ∧
      next = pool.execCall id call op continueWith response after) ∨
    (∃ change after, label = .env change ∧
      machine.advance change pool.store = some after ∧
      next = { pool with store := after }) := by
  cases label with
  | start id req =>
      left
      cases hlookup : pool.calls.lookup id with
      | none =>
          simp only [step, hlookup, Option.some.injEq] at hstep
          exact ⟨id, req, rfl, hlookup, hstep.symm⟩
      | some call => simp [step, hlookup] at hstep
  | exec id choice =>
      right; left
      cases hlookup : pool.calls.lookup id with
      | none => simp [step, hlookup] at hstep
      | some call =>
          cases hrest : call.rest with
          | pure value => simp [step, hlookup, hrest] at hstep
          | call op continueWith =>
              cases hperform : machine.perform op choice pool.store with
              | none => simp [step, hlookup, hrest, hperform] at hstep
              | some result =>
                  obtain ⟨response, after⟩ := result
                  simp only [step, hlookup, hrest, hperform,
                    Option.some.injEq] at hstep
                  exact ⟨id, choice, call, op, continueWith, response, after,
                    rfl, hlookup, hrest, hperform, hstep.symm⟩
  | env change =>
      right; right
      cases hadvance : machine.advance change pool.store with
      | none => simp [step, hadvance] at hstep
      | some after =>
          simp only [step, hadvance, Option.some.injEq] at hstep
          exact ⟨change, after, rfl, hadvance, hstep.symm⟩

theorem Reach.trans {middle : Pool State Op Res Req Out}
    (hleft : machine.Reach admissible first middle)
    (hright : machine.Reach admissible middle pool) :
    machine.Reach admissible first pool := by
  induction hright with
  | refl => exact hleft
  | step _ hadmissible hstep ih => exact ih.step hadmissible hstep

theorem Reach.mono
    {admissible' : Pool State Op Res Req Out → Label Choice Env Req → Prop}
    (hreach : machine.Reach admissible first pool)
    (himplies : ∀ current label,
      admissible current label → admissible' current label) :
    machine.Reach admissible' first pool := by
  induction hreach with
  | refl => exact .refl
  | step _ hadmissible hstep ih =>
      exact ih.step (himplies _ _ hadmissible) hstep

/-- A computed schedule is a run. -/
theorem reach_of_run
    {allowed : Pool State Op Res Req Out → Label Choice Env Req → Bool}
    {labels : List (Label Choice Env Req)}
    (hallowed : ∀ current label,
      allowed current label = true → admissible current label)
    (hrun : machine.run allowed first labels = some pool) :
    machine.Reach admissible first pool := by
  induction labels generalizing first with
  | nil =>
      simp only [run, Option.some.injEq] at hrun
      exact hrun ▸ .refl
  | cons label labels ih =>
      by_cases hlabel : allowed first label = true
      · simp only [run, hlabel, if_true, Option.bind_eq_some_iff] at hrun
        obtain ⟨next, hstep, hrest⟩ := hrun
        exact (Reach.refl.step (hallowed first label hlabel) hstep).trans
          (ih hrest)
      · simp [run, hlabel] at hrun

/-- The pool that a schedule leads to; a schedule with a step that is not
admissible or not enabled leads nowhere. -/
def runTo (machine : Machine State Op Res Choice Env Req Out)
    (admissible : Pool State Op Res Req Out → Label Choice Env Req → Prop)
    [∀ current label, Decidable (admissible current label)]
    (first : Pool State Op Res Req Out)
    (labels : List (Label Choice Env Req)) : Pool State Op Res Req Out :=
  (machine.run (fun current label => decide (admissible current label)) first
    labels).getD first

theorem reach_runTo [∀ current label, Decidable (admissible current label)]
    (labels : List (Label Choice Env Req)) :
    machine.Reach admissible first
      (machine.runTo admissible first labels) := by
  unfold runTo
  cases hrun : machine.run (fun current label =>
      decide (admissible current label)) first labels with
  | none => exact .refl
  | some pool =>
      exact reach_of_run (fun _ _ hlabel => of_decide_eq_true hlabel) hrun

/-- The invariant rule: a property of the first pool that arrivals, performed
operations and environment changes keep holds of every pool reached. -/
theorem Reach.invariant {I : Pool State Op Res Req Out → Prop}
    (hfirst : I first)
    (hstart : ∀ pool id req, machine.Reach admissible first pool → I pool →
      pool.calls.lookup id = none → admissible pool (.start id req) →
      I (pool.startCall machine id req))
    (hexec : ∀ pool id choice call op next response after,
      machine.Reach admissible first pool → I pool →
      pool.calls.lookup id = some call → call.rest = .call op next →
      machine.perform op choice pool.store = some (response, after) →
      admissible pool (.exec id choice) →
      I (pool.execCall id call op next response after))
    (henv : ∀ pool change after, machine.Reach admissible first pool →
      I pool → machine.advance change pool.store = some after →
      admissible pool (.env change) → I { pool with store := after })
    (hreach : machine.Reach admissible first pool) : I pool := by
  induction hreach with
  | refl => exact hfirst
  | step hreach hadmissible hstep ih =>
      rcases step_cases hstep with
        ⟨id, req, rfl, hlookup, rfl⟩ |
        ⟨id, choice, call, op, next, response, after, rfl, hlookup, hrest,
          hperform, rfl⟩ |
        ⟨change, after, rfl, hadvance, rfl⟩
      · exact hstart _ id req hreach ih hlookup hadmissible
      · exact hexec _ id choice call op next response after hreach ih hlookup
          hrest hperform hadmissible
      · exact henv _ change after hreach ih hadvance hadmissible

section Growth

/-- The log only grows. -/
theorem Reach.log_suffix (hreach : machine.Reach admissible first pool) :
    first.log <:+ pool.log := by
  refine Reach.invariant (I := fun pool => first.log <:+ pool.log)
    (List.suffix_refl _) ?_ ?_ ?_ hreach
  · intro pool id req _ ih _ _
    exact ih
  · intro pool id choice call op next response after _ ih _ _ _ _
    exact ih.trans (List.suffix_cons _ _)
  · intro pool change after _ ih _ _
    exact ih

/-- A call stays, with a growing history. -/
theorem Reach.call_persists (hreach : machine.Reach admissible first pool)
    {id : ℕ} {call : Call Op Res Req Out}
    (hcall : first.calls.lookup id = some call) :
    ∃ later, pool.calls.lookup id = some later ∧ later.req = call.req ∧
      call.history <:+ later.history := by
  refine Reach.invariant (I := fun pool => ∃ later,
    pool.calls.lookup id = some later ∧ later.req = call.req ∧
      call.history <:+ later.history) ⟨call, hcall, rfl, List.suffix_refl _⟩
    ?_ ?_ ?_ hreach
  · intro pool other req _ ih hlookup _
    obtain ⟨later, hlater, hfacts⟩ := ih
    have hother : id ≠ other := by
      intro heq
      rw [heq, hlookup] at hlater
      cases hlater
    refine ⟨later, ?_, hfacts⟩
    rw [Pool.startCall, AList.lookup_insert_ne hother]
    exact hlater
  · intro pool other choice current op next response after _ ih hlookup _ _ _
    obtain ⟨later, hlater, hreq, hhistory⟩ := ih
    by_cases hother : id = other
    · subst other
      rw [hlookup, Option.some.injEq] at hlater
      subst later
      exact ⟨_, AList.lookup_insert _, hreq,
        hhistory.trans (List.suffix_cons _ _)⟩
    · refine ⟨later, ?_, hreq, hhistory⟩
      rw [Pool.execCall, AList.lookup_insert_ne hother]
      exact hlater
  · intro pool change after _ ih _ _
    exact ih

end Growth

section Conformance

variable {guard : Req → History Op Res → Op → Prop}
variable {post : Req → History Op Res → Out → Prop}

/-- A call whose past obeys the guard of its program and whose future will. -/
def WellGuarded (guard : Req → History Op Res → Op → Prop)
    (post : Req → History Op Res → Out → Prop)
    (call : Call Op Res Req Out) : Prop :=
  Conforms (guard call.req) call.history ∧
    Sat (guard call.req) (post call.req) call.rest call.history

/-- Guards proved of the programs hold of every call of every pool reached,
whatever the interleaving. -/
theorem Reach.wellGuarded
    (hprogram : ∀ req,
      Sat (guard req) (post req) (machine.program req) [])
    {store : State} (hreach : machine.Reach admissible (.initial store) pool)
    {id : ℕ} {call : Call Op Res Req Out}
    (hcall : pool.calls.lookup id = some call) :
    WellGuarded guard post call := by
  refine Reach.invariant (I := fun pool => ∀ id call,
    pool.calls.lookup id = some call → WellGuarded guard post call)
    ?_ ?_ ?_ ?_ hreach id call hcall
  · intro id call hcall
    simp [Pool.initial] at hcall
  · intro pool id req _ ih _ _ other call hcall
    by_cases hother : other = id
    · subst other
      simp only [Pool.startCall, AList.lookup_insert,
        Option.some.injEq] at hcall
      subst call
      exact ⟨trivial, hprogram req⟩
    · rw [Pool.startCall, AList.lookup_insert_ne hother] at hcall
      exact ih other call hcall
  · intro pool id choice call op next response after _ ih hlookup hrest _ _
      other call' hcall
    by_cases hother : other = id
    · subst other
      simp only [Pool.execCall, AList.lookup_insert,
        Option.some.injEq] at hcall
      subst call'
      obtain ⟨hpast, hfuture⟩ := ih id call hlookup
      rw [hrest] at hfuture
      exact ⟨⟨hfuture.1, hpast⟩, hfuture.2 response⟩
    · rw [Pool.execCall, AList.lookup_insert_ne hother] at hcall
      exact ih other call' hcall
  · intro pool change after _ ih _ _
    exact ih

/-- The guard of the operation a call is about to perform. -/
theorem Reach.guard_next
    (hprogram : ∀ req,
      Sat (guard req) (post req) (machine.program req) [])
    {store : State} (hreach : machine.Reach admissible (.initial store) pool)
    {id : ℕ} {call : Call Op Res Req Out} {op : Op}
    {next : Res op → Prog Op Res Out}
    (hcall : pool.calls.lookup id = some call)
    (hrest : call.rest = .call op next) :
    guard call.req call.history op := by
  have hguarded := (hreach.wellGuarded hprogram hcall).2
  rw [hrest] at hguarded
  exact hguarded.1

/-- The post-condition of a call that has returned. -/
theorem Reach.post_of_returned
    (hprogram : ∀ req,
      Sat (guard req) (post req) (machine.program req) [])
    {store : State} (hreach : machine.Reach admissible (.initial store) pool)
    {id : ℕ} {call : Call Op Res Req Out} {value : Out}
    (hcall : pool.calls.lookup id = some call)
    (hrest : call.rest = .pure value) :
    post call.req call.history value := by
  have hguarded := (hreach.wellGuarded hprogram hcall).2
  rw [hrest] at hguarded
  exact hguarded

end Conformance

section Log

/-- The log records what the calls have performed, with the state changes. -/
structure LogSound (machine : Machine State Op Res Choice Env Req Out)
    (pool : Pool State Op Res Req Out) : Prop where
  performed : ∀ event ∈ pool.log, ∃ choice,
    machine.perform event.entry.1 choice event.before =
      some (event.entry.2, event.after)
  recorded : ∀ event ∈ pool.log, ∃ call,
    pool.calls.lookup event.call = some call ∧
      event.entry :: event.older <:+ call.history
  complete : ∀ id call entry older, pool.calls.lookup id = some call →
    entry :: older <:+ call.history →
      ∃ event ∈ pool.log, event.call = id ∧ event.entry = entry ∧
        event.older = older

theorem Reach.logSound {store : State}
    (hreach : machine.Reach admissible (.initial store) pool) :
    LogSound machine pool := by
  refine Reach.invariant ?_ ?_ ?_ ?_ hreach
  · refine ⟨?_, ?_, ?_⟩ <;> simp [Pool.initial]
  · intro pool id req _ ih hlookup _
    refine ⟨ih.performed, ?_, ?_⟩
    · intro event hevent
      obtain ⟨call, hcall, hsuffix⟩ := ih.recorded event hevent
      have hother : event.call ≠ id := by
        intro heq
        rw [heq, hlookup] at hcall
        cases hcall
      exact ⟨call, by
        rw [Pool.startCall, AList.lookup_insert_ne hother]
        exact hcall, hsuffix⟩
    · intro other call entry older hcall hsuffix
      by_cases hother : other = id
      · subst other
        simp only [Pool.startCall, AList.lookup_insert,
          Option.some.injEq] at hcall
        subst call
        simp at hsuffix
      · rw [Pool.startCall, AList.lookup_insert_ne hother] at hcall
        exact ih.complete other call entry older hcall hsuffix
  · intro pool id choice call op next response after _ ih hlookup _ hperform _
    refine ⟨?_, ?_, ?_⟩
    · intro event hevent
      rcases List.mem_cons.mp hevent with rfl | hold
      · exact ⟨choice, hperform⟩
      · exact ih.performed event hold
    · intro event hevent
      rcases List.mem_cons.mp hevent with rfl | hold
      · exact ⟨_, AList.lookup_insert _, List.suffix_refl _⟩
      · obtain ⟨call', hcall', hsuffix⟩ := ih.recorded event hold
        by_cases hother : event.call = id
        · rw [hother, hlookup, Option.some.injEq] at hcall'
          subst call'
          exact ⟨_, by
            rw [Pool.execCall, hother, AList.lookup_insert],
            hsuffix.trans (List.suffix_cons _ _)⟩
        · exact ⟨call', by
            rw [Pool.execCall, AList.lookup_insert_ne hother]
            exact hcall', hsuffix⟩
    · intro other call' entry older hcall' hsuffix
      by_cases hother : other = id
      · subst other
        simp only [Pool.execCall, AList.lookup_insert,
          Option.some.injEq] at hcall'
        subst call'
        rcases List.suffix_cons_iff.mp hsuffix with heq | hrest
        · obtain ⟨rfl, rfl⟩ := List.cons.inj heq
          exact ⟨_, List.mem_cons_self, rfl, rfl, rfl⟩
        · obtain ⟨event, hevent, hfacts⟩ :=
            ih.complete _ call entry older hlookup hrest
          exact ⟨event, List.mem_cons_of_mem _ hevent, hfacts⟩
      · rw [Pool.execCall, AList.lookup_insert_ne hother] at hcall'
        obtain ⟨event, hevent, hfacts⟩ :=
          ih.complete other call' entry older hcall' hsuffix
        exact ⟨event, List.mem_cons_of_mem _ hevent, hfacts⟩
  · intro pool change after _ ih _ _
    exact ⟨ih.performed, ih.recorded, ih.complete⟩

/-- The guard of a performed operation. -/
theorem Reach.event_guard {guard : Req → History Op Res → Op → Prop}
    {post : Req → History Op Res → Out → Prop}
    (hprogram : ∀ req,
      Sat (guard req) (post req) (machine.program req) [])
    {store : State} (hreach : machine.Reach admissible (.initial store) pool)
    {event : Event State Op Res} (hevent : event ∈ pool.log) :
    ∃ call, pool.calls.lookup event.call = some call ∧
      event.entry :: event.older <:+ call.history ∧
      guard call.req event.older event.entry.1 := by
  obtain ⟨call, hcall, hsuffix⟩ := hreach.logSound.recorded event hevent
  have hconforms := (hreach.wellGuarded hprogram hcall).1
  exact ⟨call, hcall, hsuffix, (hconforms.suffix hsuffix).1⟩

/-- An entry of a history was logged. -/
theorem Reach.event_of_mem {store : State}
    (hreach : machine.Reach admissible (.initial store) pool) {id : ℕ}
    {call : Call Op Res Req Out} {entry : Entry Op Res}
    (hcall : pool.calls.lookup id = some call) (hentry : entry ∈ call.history) :
    ∃ event ∈ pool.log, event.call = id ∧ event.entry = entry := by
  obtain ⟨newer, older, hhistory⟩ := List.append_of_mem hentry
  have hsuffix : entry :: older <:+ call.history := by
    rw [hhistory]
    exact List.suffix_append newer (entry :: older)
  obtain ⟨event, hevent, hid, hentry, -⟩ :=
    hreach.logSound.complete id call entry older hcall hsuffix
  exact ⟨event, hevent, hid, hentry⟩

end Log

end Machine

end MessagingPlatform.Interleaving
