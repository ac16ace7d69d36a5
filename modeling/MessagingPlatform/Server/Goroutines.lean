import MessagingPlatform.Server.LifecycleRules

/-!
# Runs of a server process

A performed operation is seen from the goroutine that performs it and from the
state that all share.  Every goroutine runs once, and one that has not finished
is counted by the wait group that it belongs to.
-/

namespace MessagingPlatform.Lifecycle

open Program
open Interleaving
open Instants
open Errors
open Effects
open Freshness

variable {process : Process} {admissible : Pool → Label → Prop} {clock : Time}
variable {pool : Pool}

section Steps

/-- An operation that call `id` performs in `pool`. -/
structure Does (process : Process) (pool : Pool) (id : ℕ) (call : Call)
    (op : Op) (response : op.Res) (after : State) : Prop where
  lookup : pool.calls.lookup id = some call
  guarded : Guarded process call.req call.history op
  answers : Answers process pool.store ⟨op, response⟩
  change : Change process pool.store ⟨op, response⟩ after

/-- What time and signals change. -/
structure Drifts (before after : State) : Prop where
  clock : before.store.clock ≤ after.store.clock
  kept : after = { before with
    store := after.store
    signalled := after.signalled }

theorem drifts_of_advance {change : Env} {before after : State}
    (hadvance : advance change before = some after) : Drifts before after := by
  cases change with
  | signal =>
      cases hadvance
      exact ⟨le_refl _, rfl⟩
  | store change =>
      simp only [advance, Option.map_eq_some_iff] at hadvance
      obtain ⟨store, hstore, rfl⟩ := hadvance
      exact ⟨(framed_of_advance hstore).clock, rfl⟩

theorem does_of_perform {id : ℕ} {choice : Choice} {call : Call} {op : Op}
    {next : op.Res → Prog Op Op.Res Exit} {response : op.Res} {after : State}
    (hreach : (server process).Reach admissible (boot clock) pool)
    (hlookup : pool.calls.lookup id = some call)
    (hrest : call.rest = .call op next)
    (hperform : (server process).perform op choice pool.store =
      some (response, after)) :
    Does process pool id call op response after where
  lookup := hlookup
  guarded := hreach.guard_next (sat_body process) hlookup hrest
  answers := answers_of_perform hperform
  change := change_of_perform hperform

/-- The invariant rule of the server. -/
theorem invariant {I : Pool → Prop} (hfirst : I (boot clock))
    (hstart : ∀ pool id task,
      (server process).Reach admissible (boot clock) pool → I pool →
      pool.calls.lookup id = none →
      I (pool.startCall (server process) id task))
    (hexec : ∀ pool id call op next response after,
      (server process).Reach admissible (boot clock) pool → I pool →
      Does process pool id call op response after →
      I (pool.execCall id call op next response after))
    (hdrift : ∀ pool after,
      (server process).Reach admissible (boot clock) pool → I pool →
      Drifts pool.store after → I { pool with store := after })
    (hreach : (server process).Reach admissible (boot clock) pool) :
    I pool := by
  refine Machine.Reach.invariant hfirst ?_ ?_ ?_ hreach
  · intro pool id task hpool ih hlookup _
    exact hstart pool id task hpool ih hlookup
  · intro pool id choice call op next response after hpool ih hlookup hrest
      hperform _
    exact hexec pool id call op next response after hpool ih
      (does_of_perform hpool hlookup hrest hperform)
  · intro pool change after hpool ih hadvance _
    exact hdrift pool after hpool ih (drifts_of_advance hadvance)

end Steps

section Time

theorem clock_of_change {before after : State} {entry : Entry}
    (hchange : Change process before entry after) :
    after.store.clock = before.store.clock := by
  cases hchange with
  | service hperform | sendOTP hperform =>
      exact (effect_of_perform hperform).clock
  | _ => rfl

end Time

section Owners

/-- A goroutine that has done anything has entered under its own name. -/
theorem entered_of_ne_nil {id : ℕ} {call : Call}
    (hreach : (server process).Reach admissible (boot clock) pool)
    (hcall : pool.calls.lookup id = some call) (hne : call.history ≠ []) :
    enteredAs call.history = some call.req.token := by
  have hconforms := (hreach.wellGuarded (sat_body process) hcall).1
  obtain ⟨front, first, hhistory⟩ := List.eq_nil_or_concat call.history
    |>.resolve_left hne
  have hsuffix : [first] <:+ call.history := by
    rw [hhistory, List.concat_eq_append]
    exact List.suffix_append front [first]
  have hguarded : Guarded process call.req [] first.1 :=
    (hconforms.suffix hsuffix).1
  rw [hhistory, enteredAs, List.concat_eq_append, List.getLast?_concat]
  obtain ⟨op, response⟩ := first
  rcases hguarded.entered with ⟨token, rfl⟩ | hnone
  · rw [← hguarded.role.2]
    rfl
  · cases hnone

/-- Goroutines enter once. -/
def entries (process : Process) : Supply (server process) Token where
  issued := State.begun
  issue := enteredToken
  performs := by
    intro op choice before response after hperform
    have hanswers := answers_of_perform hperform
    have hchange := change_of_perform hperform
    cases hchange with
    | enter token =>
        refine ⟨rfl, fun value hvalue => ?_⟩
        cases hvalue
        exact hanswers.2
    | kept hinert =>
        have hnone : enteredToken ⟨op, response⟩ = none := by
          cases op with
          | enter token => cases hinert
          | _ => rfl
        rw [hnone]
        exact ⟨rfl, nofun⟩
    | _ => exact ⟨rfl, nofun⟩
  advances := by
    intro change before after hadvance
    rw [(drifts_of_advance hadvance).kept]

/-- A name belongs to one call. -/
theorem owner_unique {id other : ℕ} {call call' : Call} {token : Token}
    (hreach : (server process).Reach admissible (boot clock) pool)
    (hcall : pool.calls.lookup id = some call)
    (hcall' : pool.calls.lookup other = some call')
    (hentered : enteredAs call.history = some token)
    (hentered' : enteredAs call'.history = some token) : id = other := by
  have hevent : ∀ {id : ℕ} {call : Call}, pool.calls.lookup id = some call →
      enteredAs call.history = some token →
        ∃ event ∈ pool.log, event.call = id ∧
          enteredToken event.entry = some token := by
    intro id call hcall hentered
    rw [enteredAs, Option.bind_eq_some_iff] at hentered
    obtain ⟨entry, hentry, htoken⟩ := hentered
    obtain ⟨event, hevent, hid, rfl⟩ :=
      hreach.event_of_mem hcall (List.mem_of_getLast? hentry)
    exact ⟨event, hevent, hid, htoken⟩
  obtain ⟨event, hmem, rfl, htoken⟩ := hevent hcall hentered
  obtain ⟨event', hmem', rfl, htoken'⟩ := hevent hcall' hentered'
  have hnodup := ((entries process).issued_eq rfl hreach).2
  rw [event_unique hnodup hmem hmem' htoken htoken']

end Owners

section Counted

/-- The goroutine that an operation takes out of the count. -/
def Op.ends : Op → Option Token
  | .leave token _ => some token
  | .writeResponse number _ => some (.connection number)
  | .close number => some (.connection number)
  | _ => none

theorem live_of_change {before after : State} {entry : Entry} {token : Token}
    (hchange : Change process before entry after)
    (hlive : token ∈ before.live) (hends : entry.1.ends ≠ some token) :
    token ∈ after.live := by
  have hne : ∀ {other : Token}, some other ≠ some token → token ≠ other :=
    fun hother heq => hother (congrArg some heq.symm)
  cases hchange with
  | enter other => exact List.mem_append_right _ hlive
  | spawn | readRequest | goSend => exact List.mem_cons_of_mem _ hlive
  | leave | writeLast | writeResponse | close =>
      exact List.mem_filter.mpr ⟨hlive, decide_eq_true (hne hends)⟩
  | _ => exact hlive

/-- Only its own operations take a goroutine out of the count. -/
theorem ends_own {task : Task} {history : History} {op : Op} {token : Token}
    (hguarded : Guarded process task history op)
    (hends : op.ends = some token) : token = task.token := by
  have hrole := hguarded.role
  cases op with
  | leave other result =>
      cases hends
      exact hrole.1
  | writeResponse number written =>
      cases hends
      exact hrole.1.symm
  | close number =>
      cases hends
      exact hrole.symm
  | _ => cases hends

theorem ends_stops {op : Op} {token : Token} (hends : op.ends = some token)
    (response : op.Res) (history : History) :
    holds (⟨op, response⟩ :: history) = false := by
  cases op with
  | leave | writeResponse | close => rfl
  | _ => cases hends

/-- A goroutine other than that of `Run` is counted once it has entered. -/
theorem live_of_enter {state : State} {task : Task} (hrun : task ≠ .run)
    (hstartable : process.libraries.startable state task.token = true) :
    task.token ∈ task.token.counted ++ state.live := by
  cases task with
  | run => exact absurd rfl hrun
  | connection | rpc => exact List.mem_cons_self
  | _ => exact List.contains_iff_mem.mp hstartable

/-- The goroutine that performs an operation and is not finished by it is
counted afterwards. -/
theorem live_of_does {id : ℕ} {call : Call} {op : Op} {response : op.Res}
    {after : State} (hdoes : Does process pool id call op response after)
    (hrun : call.req ≠ .run)
    (hbefore : holds call.history = true →
      call.req.token ∈ pool.store.live)
    (hholds : holds (⟨op, response⟩ :: call.history) = true) :
    call.req.token ∈ after.live := by
  have hends : op.ends ≠ some call.req.token := by
    intro hends
    rw [ends_stops hends] at hholds
    cases hholds
  have hkeep : call.req.token ∈ pool.store.live →
      call.req.token ∈ after.live :=
    fun hlive => live_of_change hdoes.change hlive hends
  cases op with
  | enter token =>
      obtain ⟨-, rfl⟩ : call.history = [] ∧ token = call.req.token :=
        hdoes.guarded.role
      have hlive := live_of_enter hrun hdoes.answers.1
      cases hdoes.change with
      | kept hinert => cases hinert
      | enter => exact hlive
  | leave | writeResponse | close => cases hholds
  | readRequest number =>
      have htoken : call.req.token = .connection number := hdoes.guarded.role
      obtain rfl : response = true := hholds
      rw [htoken]
      cases hdoes.change with
      | kept hinert => cases hinert
      | readFirst hlive => exact hlive
      | readRequest number hidle => exact List.mem_cons_self
  | _ => exact hkeep (hbefore hholds)

/-- A goroutine that has not finished is counted. -/
theorem live_of_holds {id : ℕ} {call : Call}
    (hreach : (server process).Reach admissible (boot clock) pool)
    (hcall : pool.calls.lookup id = some call) (hrun : call.req ≠ .run)
    (hholds : holds call.history = true) :
    call.req.token ∈ pool.store.live := by
  refine invariant (I := fun pool => ∀ id call,
    pool.calls.lookup id = some call → call.req ≠ .run →
    holds call.history = true → call.req.token ∈ pool.store.live)
    ?_ ?_ ?_ ?_ hreach id call hcall hrun hholds
  · intro id call hcall
    simp [boot, Pool.initial] at hcall
  · intro pool id task _ ih _ other call hcall hrun hholds
    rcases lookup_startCall hcall with ⟨-, hnil⟩ | hold
    · rw [hnil] at hholds
      cases hholds
    · exact ih other call hold hrun hholds
  · intro pool id call op next response after hpool ih hdoes other later hcall
      hrun hholds
    rcases lookup_execCall hcall with ⟨-, hreq, hhistory⟩ | ⟨hother, hold⟩
    · rw [hreq] at hrun ⊢
      rw [hhistory] at hholds
      exact live_of_does hdoes hrun (ih id call hdoes.lookup hrun) hholds
    · refine live_of_change hdoes.change (ih other later hold hrun hholds) ?_
      intro hends
      -- Both calls would have entered under the same name.
      have htoken := ends_own hdoes.guarded hends
      have hentered : enteredAs call.history = some call.req.token := by
        rcases hdoes.guarded.entered with ⟨token, rfl⟩ | hentered
        · cases hends
        · exact hentered
      have hne : later.history ≠ [] := by
        intro hnil
        rw [hnil] at hholds
        cases hholds
      have hentered' := entered_of_ne_nil hpool hold hne
      rw [htoken] at hentered'
      exact hother (owner_unique hpool hold hdoes.lookup hentered' hentered)
  · intro pool after _ ih hdrift id call hcall hrun hholds
    rw [hdrift.kept]
    exact ih id call hcall hrun hholds

end Counted

end MessagingPlatform.Lifecycle
