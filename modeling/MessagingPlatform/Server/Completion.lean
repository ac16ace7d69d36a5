import MessagingPlatform.Server.Shutdown

/-!
# When `Run` returns

`Run` returns an error of the startup before any other goroutine has begun, or
it returns when all functions of its error group have: the servers have ended,
the shutdown has done every step of its script, and the result is the first
error among theirs.
-/

namespace MessagingPlatform.Lifecycle

open Program
open Interleaving
open Instants
open Errors
open Chronology

variable {process : Process} {admissible : Pool → Label → Prop} {clock : Time}
variable {pool : Pool}

section Waiting

/-- A goroutine that was counted is counted until it leaves. -/
theorem live_or_left {event : Event} {token : Token}
    (hreach : (server process).Reach admissible (boot clock) pool)
    (hevent : event ∈ pool.log) (hlive : token ∈ event.after.live)
    (hconnection : token.isConnection = false) :
    token ∈ pool.store.live ∨ ∃ left ∈ pool.log, ∃ result,
      left.entry = ⟨.leave token result, ()⟩ := by
  refine invariant (I := fun pool => ∀ event ∈ pool.log,
    token ∈ event.after.live → token ∈ pool.store.live ∨
      ∃ left ∈ pool.log, ∃ result, left.entry = ⟨.leave token result, ()⟩)
    ?_ ?_ ?_ ?_ hreach event hevent hlive
  · intro event hevent
    cases hevent
  · intro pool id task _ ih _
    exact ih
  · intro pool id call op next response after _ ih hdoes event hevent hlive
    rcases List.mem_cons.mp hevent with rfl | hold
    · exact Or.inl hlive
    · rcases ih event hold hlive with hlive | ⟨left, hleft, hentry⟩
      · by_cases hends : op.ends = some token
        · refine Or.inr ⟨_, List.mem_cons_self, ?_⟩
          cases op with
          | leave other result =>
              cases hends
              exact ⟨result, rfl⟩
          | writeResponse | close =>
              cases hends
              cases hconnection
          | _ => cases hends
        · exact Or.inl (live_of_change hdoes.change hlive hends)
      · exact Or.inr ⟨left, List.mem_cons_of_mem _ hleft, hentry⟩
  · intro pool after _ ih hdrifts event hevent hlive
    rw [hdrifts.kept]
    exact ih event hevent hlive

/-- The error that a goroutine leaves with. -/
def failure (event : Event) : Option GoError :=
  match event.entry with
  | ⟨.leave _ result, _⟩ => result
  | _ => none

/-- The first error in a log. -/
def firstFailure (log : List Event) : Option GoError :=
  (log.filterMap failure).getLast?

theorem firstFailure_cons (event : Event) (log : List Event) :
    firstFailure (event :: log) = (firstFailure log).or (failure event) := by
  unfold firstFailure
  cases hfailure : failure event with
  | none => rw [List.filterMap_cons_none hfailure, Option.or_none]
  | some err =>
      rw [List.filterMap_cons_some hfailure, List.getLast?_cons]
      cases (log.filterMap failure).getLast? <;> rfl

theorem groupErr_of_change {before after : State} {event : Event}
    (hchange : Change process before event.entry after) :
    after.groupErr = before.groupErr.or (failure event) := by
  obtain ⟨id, older, ⟨op, response⟩, was, became⟩ := event
  cases hchange with
  | kept hinert =>
      cases op with
      | leave token result => cases hinert
      | _ => exact (Option.or_none).symm
  | leave token result => rfl
  | _ => exact (Option.or_none).symm

/-- The group keeps the first error. -/
theorem groupErr_eq
    (hreach : (server process).Reach admissible (boot clock) pool) :
    pool.store.groupErr = firstFailure pool.log := by
  refine invariant (I := fun pool =>
    pool.store.groupErr = firstFailure pool.log) rfl ?_ ?_ ?_ hreach
  · intro pool id task _ ih _
    exact ih
  · intro pool id call op next response after _ ih hdoes
    rw [Pool.execCall, firstFailure_cons, ← ih]
    exact groupErr_of_change hdoes.change
  · intro pool after _ ih hdrifts
    rw [hdrifts.kept]
    exact ih

theorem grouped_goroutine {p : Params} {token : Token}
    (htoken : token ∈ p.goroutines) :
    token.grouped = true ∧ token.isConnection = false := by
  unfold Params.goroutines at htoken
  split at htoken
  · simp only [List.mem_cons, List.not_mem_nil, or_false] at htoken
    rcases htoken with rfl | rfl | rfl <;> exact ⟨rfl, rfl⟩
  · simp only [List.mem_cons, List.not_mem_nil, or_false] at htoken
    rcases htoken with rfl | rfl <;> exact ⟨rfl, rfl⟩

theorem Change.spawned {before after : State} {token : Token}
    {response : Unit}
    (hchange : Change process before ⟨.spawn token, response⟩ after) :
    token ∈ after.live := by
  cases hchange with
  | kept hinert => cases hinert
  | spawn => exact List.mem_cons_self

/-- Everything in the group has ended. -/
structure GroupEnded (p : Params) (log : List Event) : Prop where
  left : ∀ token ∈ p.goroutines, ∃ event ∈ log, ∃ result,
    event.entry = ⟨.leave token result, ()⟩
  scripted : ∃ event ∈ log, event.entry.1.step = .leave ∧
    stepsOf (event.entry :: event.older) = p.script

theorem script_ends (p : Params) :
    ∃ early, p.script = early ++ [.leave] ∧ .leave ∉ early := by
  refine ⟨p.script.dropLast, ?_⟩
  unfold Params.script Params.grpcSteps Params.cleanupSteps
  split <;> split <;> exact ⟨rfl, by decide⟩

/-- A shutdown that has left has done all of its script. -/
theorem whole_script {event : Event} {result : Option GoError}
    (hreach : (server process).Reach admissible (boot clock) pool)
    (hevent : event ∈ pool.log)
    (hentry : event.entry = ⟨.leave .shutdown result, ()⟩) :
    stepsOf (event.entry :: event.older) = process.params.script := by
  obtain ⟨call, -, -, hguarded⟩ := guarded_of_event hreach hevent hentry
  have htask : call.req = .shutdown := by
    have htoken : Token.shutdown = call.req.token := hguarded.role.1
    cases hreq : call.req with
    | shutdown => rfl
    | _ =>
        rw [hreq] at htoken
        cases htoken
  have hscripted := hguarded.scripted htask
  obtain ⟨early, hscript, hleave⟩ := script_ends process.params
  have hearly := hscripted.early hscript hleave
  rw [hentry, stepsOf_cons]
  refine hscripted.ordered.eq_of_length_le ?_
  rw [hscript, List.length_append, List.length_append]
  exact Nat.add_le_add_right hearly.length_le 1

/-- `Wait` returns when everything in the group has ended, with the first
error. -/
theorem wait_returned {newer older : List Event} {waited : Event}
    {err : Option GoError}
    (hreach : (server process).Reach admissible (boot clock) pool)
    (hlog : pool.log = newer ++ waited :: older)
    (hentry : waited.entry = ⟨.wait, err⟩) :
    GroupEnded process.params older ∧ err = firstFailure older := by
  have hmem : waited ∈ pool.log := by simp [hlog]
  obtain ⟨current, call, next, hcurrent, rfl, hstore, hlookup, hhistory, -⟩ :=
    Reach.at_event hreach hlog
  obtain ⟨hnone, herr⟩ : waited.before.without Token.grouped ∧
      err = waited.before.groupErr := answers_of_event hreach hmem hentry
  obtain ⟨later, -, -, hguarded⟩ := guarded_of_event hreach hmem hentry
  have hleft : ∀ token ∈ process.params.goroutines, ∃ event ∈ current.log,
      ∃ result, event.entry = ⟨.leave token result, ()⟩ := by
    intro token htoken
    obtain ⟨hgrouped, hconnection⟩ := grouped_goroutine htoken
    have hspawned := hguarded.role.2 token htoken
    rw [← hhistory] at hspawned
    obtain ⟨spawned, hspawn, -, hspawnEntry⟩ :=
      hcurrent.event_of_mem hlookup hspawned
    have hlive := (change_of_event hcurrent hspawn hspawnEntry).spawned
    rcases live_or_left hcurrent hspawn hlive hconnection with hlive | hleft
    · rw [hstore] at hlive
      rw [hnone token hlive] at hgrouped
      cases hgrouped
    · exact hleft
  refine ⟨⟨hleft, ?_⟩, ?_⟩
  · obtain ⟨event, hevent, result, hresult⟩ :=
      hleft .shutdown (by unfold Params.goroutines; split <;> simp)
    exact ⟨event, hevent, by rw [hresult]; rfl,
      whole_script hcurrent hevent hresult⟩
  · rw [herr, ← hstore]
    exact groupErr_eq hcurrent

end Waiting

section Startup

/-- Nothing can begin but `Run`. -/
structure Dormant (state : State) : Prop where
  live : state.live = []
  httpServing : state.httpServing = false
  grpcServing : state.grpcServing = false

theorem Dormant.startable {state : State} {task : Task}
    (hdormant : Dormant state)
    (hstartable : process.libraries.startable state task.token = true) :
    task = .run := by
  have hcontains : ∀ token, state.live.contains token = false := by
    intro token
    rw [hdormant.live]
    rfl
  cases task with
  | run => rfl
  | connection number routes =>
      simp [Task.token, Libraries.startable, hdormant.httpServing]
        at hstartable
  | rpc number ctx rpc =>
      have hserving := (process.libraries.accepts_serving hstartable).1
      rw [hdormant.grpcServing] at hserving
      cases hserving
  | _ => exact absurd hstartable (Bool.eq_false_iff.mp (hcontains _))

/-- What `Run` does. -/
theorem role_run {history : History} {op : Op}
    (hrole : Role process .run history op) :
    op = .enter .run ∨ op.ofStartup = true ∨ (∃ token, op = .spawn token) ∨
      op = .wait := by
  cases op with
  | enter token => exact Or.inl (by rw [hrole.2]; rfl)
  | traceExporter | metricExporter | loadAWSConfig | newRedisClient
  | generateKey | registerGateway | listen => exact Or.inr (Or.inl rfl)
  | spawn token => exact Or.inr (Or.inr (Or.inl ⟨token, rfl⟩))
  | wait => exact Or.inr (Or.inr (Or.inr rfl))
  | leave token result => exact absurd rfl hrole.2.1
  | httpServe | httpServeReturn | grpcServe | grpcServeReturn => cases hrole.1
  | readRequest number => cases hrole
  | writeResponse number written => cases hrole.1
  | close number => cases hrole
  | loadShuttingDown | service | goSend => cases hrole.1
  | sendOTP phone otp =>
      obtain ⟨⟨number, heq⟩, -⟩ := hrole
      cases heq
  | _ => cases hrole.1 rfl

theorem Change.startup {before after : State} {op : Op} {response : op.Res}
    (hchange : Change process before ⟨op, response⟩ after)
    (hop : op.ofStartup = true ∨ op = .wait) : after = before := by
  cases hchange with
  | kept hinert => rfl
  | _ => rcases hop with hop | hop <;> cases hop

theorem Dormant.enter {before after : State} {response : Unit}
    (hdormant : Dormant before)
    (hchange : Change process before ⟨.enter .run, response⟩ after) :
    Dormant after := by
  cases hchange with
  | kept hinert => cases hinert
  | enter => exact ⟨hdormant.live, hdormant.httpServing, hdormant.grpcServing⟩

/-- Until `Run` starts a goroutine, nothing happens beside `Run`. -/
theorem spawned_or_dormant
    (hreach : (server process).Reach admissible (boot clock) pool) :
    (∃ event ∈ pool.log, ∃ token, event.entry = ⟨.spawn token, ()⟩) ∨
      Dormant pool.store ∧ ∀ id call, pool.calls.lookup id = some call →
        call.history ≠ [] → call.req = .run := by
  refine invariant (I := fun pool =>
    (∃ event ∈ pool.log, ∃ token, event.entry = ⟨.spawn token, ()⟩) ∨
      Dormant pool.store ∧ ∀ id call, pool.calls.lookup id = some call →
        call.history ≠ [] → call.req = .run) ?_ ?_ ?_ ?_ hreach
  · refine Or.inr ⟨⟨rfl, rfl, rfl⟩, ?_⟩
    intro id call hcall
    simp [boot, Pool.initial] at hcall
  · intro pool id task _ ih _
    rcases ih with hspawned | ⟨hdormant, hcalls⟩
    · exact Or.inl hspawned
    refine Or.inr ⟨hdormant, ?_⟩
    intro other call hcall hne
    rcases lookup_startCall hcall with ⟨-, hnil⟩ | hold
    · exact absurd hnil hne
    · exact hcalls other call hold hne
  · intro pool id call op next response after hpool ih hdoes
    rcases ih with ⟨event, hevent, hspawn⟩ | ⟨hdormant, hcalls⟩
    · exact Or.inl ⟨event, List.mem_cons_of_mem _ hevent, hspawn⟩
    have hreq : call.req = .run := by
      rcases hdoes.guarded.entered with ⟨token, rfl⟩ | hentered
      · obtain ⟨-, rfl⟩ : call.history = [] ∧ token = call.req.token :=
          hdoes.guarded.role
        exact hdormant.startable hdoes.answers.1
      · refine hcalls id call hdoes.lookup ?_
        intro hnil
        rw [hnil] at hentered
        cases hentered
    have hothers : ∀ other later,
        (pool.execCall id call op next response after).calls.lookup other =
          some later → later.history ≠ [] → later.req = .run := by
      intro other later hlater hne
      rcases lookup_execCall hlater with ⟨-, heq, -⟩ | ⟨-, hold⟩
      · rw [heq, hreq]
      · exact hcalls other later hold hne
    have hrole := hdoes.guarded.role
    have hchange := hdoes.change
    rw [hreq] at hrole
    rcases role_run hrole with rfl | hstartup | ⟨token, rfl⟩ | rfl
    · exact Or.inr ⟨hdormant.enter hchange, hothers⟩
    · rw [hchange.startup (Or.inl hstartup)]
      rw [hchange.startup (Or.inl hstartup)] at hothers
      exact Or.inr ⟨hdormant, hothers⟩
    · exact Or.inl ⟨_, List.mem_cons_self, token, rfl⟩
    · obtain rfl := hchange.startup (Or.inr rfl)
      exact Or.inr ⟨hdormant, hothers⟩
  · intro pool after _ ih hdrifts
    rcases ih with hspawned | ⟨hdormant, hcalls⟩
    · exact Or.inl hspawned
    refine Or.inr ⟨?_, hcalls⟩
    rw [hdrifts.kept]
    exact ⟨hdormant.live, hdormant.httpServing, hdormant.grpcServing⟩

end Startup

section Returning

/-- The goroutine of `Run` is one call. -/
theorem run_unique {id other : ℕ} {call call' : Call}
    (hreach : (server process).Reach admissible (boot clock) pool)
    (hcall : pool.calls.lookup id = some call)
    (hcall' : pool.calls.lookup other = some call')
    (hreq : call.req = .run) (hreq' : call'.req = .run)
    (hne : call.history ≠ []) (hne' : call'.history ≠ []) : id = other := by
  have hentered := entered_of_ne_nil hreach hcall hne
  have hentered' := entered_of_ne_nil hreach hcall' hne'
  rw [hreq] at hentered
  rw [hreq'] at hentered'
  exact owner_unique hreach hcall hcall' hentered hentered'

/-- A goroutine was started by `Run`, after a startup that succeeded. -/
theorem started_of_spawn {event : Event} {token : Token}
    (hreach : (server process).Reach admissible (boot clock) pool)
    (hevent : event ∈ pool.log)
    (hentry : event.entry = ⟨.spawn token, ()⟩) :
    ∃ call, pool.calls.lookup event.call = some call ∧ call.req = .run ∧
      (⟨.spawn token, ()⟩ : Entry) ∈ call.history ∧
      StartedUp process event.older := by
  obtain ⟨call, hcall, hsuffix, hguarded⟩ :=
    guarded_of_event hreach hevent hentry
  exact ⟨call, hcall, hguarded.role.1, hsuffix.subset List.mem_cons_self,
    hguarded.role.2.2.1⟩

/-- What `Run` has returned. -/
def returnedErr (call : Call) : Option (Option GoError) :=
  match call.req, call.rest with
  | .run, .pure (.returned err) => some err
  | _, _ => none

theorem returned_of_returnedErr {call : Call} {err : Option GoError}
    (hreturned : returnedErr call = some err) :
    call.req = .run ∧ call.rest = .pure (.returned err) := by
  unfold returnedErr at hreturned
  split at hreturned
  · next hreq hrest =>
      cases hreturned
      exact ⟨hreq, hrest⟩
  · cases hreturned

/-- The gateway to its end. -/
def gatewayRun : List Label :=
  gatewayStop ++ proceed 3 5 ++ proceed 1 2 ++ proceed 0 1

/-- `Run` returns an error of the startup when nothing but `Run` has done
anything, or what `Wait` returned: the first error of its group, when
everything in it has ended. -/
theorem run_returned {id : ℕ} {call : Call} {err : Option GoError}
    (hreach : (server process).Reach admissible (boot clock) pool)
    (hcall : pool.calls.lookup id = some call) (hreq : call.req = .run)
    (hrest : call.rest = .pure (.returned err)) :
    (err.isSome = true ∧ ∀ event ∈ pool.log, event.call = id) ∨
      ∃ newer waited older, pool.log = newer ++ waited :: older ∧
        waited.call = id ∧ waited.entry = ⟨.wait, err⟩ ∧
        GroupEnded process.params older ∧ err = firstFailure older := by
  have hended := hreach.post_of_returned (sat_body process) hcall hrest
  rw [hreq] at hended
  obtain ⟨hentered, err', hexit, hcases⟩ := hended
  obtain rfl : err = err' := by
    cases hexit
    rfl
  have hne : call.history ≠ [] := by
    intro hnil
    rw [hnil] at hentered
    cases hentered
  rcases hcases with hwaited | ⟨hsome, hunspawned⟩
  · right
    obtain ⟨waited, hmem, hid, hentry⟩ := hreach.event_of_mem hcall hwaited
    obtain ⟨newer, older, hlog⟩ := List.append_of_mem hmem
    obtain ⟨hgroup, herr⟩ := wait_returned hreach hlog hentry
    exact ⟨newer, waited, older, hlog, hid, hentry, hgroup, herr⟩
  · refine Or.inl ⟨hsome, fun event hevent => ?_⟩
    rcases spawned_or_dormant hreach with ⟨spawned, hspawned, token, hspawn⟩ |
      ⟨-, hcalls⟩
    · obtain ⟨other, hother, hreq', hmem, -⟩ :=
        started_of_spawn hreach hspawned hspawn
      obtain rfl := run_unique hreach hcall hother hreq hreq' hne
        (List.ne_nil_of_mem hmem)
      rw [hcall, Option.some.injEq] at hother
      subst hother
      exact absurd hmem (hunspawned token)
    · obtain ⟨other, hother, hsuffix⟩ :=
        hreach.logSound.recorded event hevent
      have hne' : other.history ≠ [] :=
        List.ne_nil_of_mem (hsuffix.subset List.mem_cons_self)
      exact run_unique hreach hother hcall
        (hcalls event.call other hother hne') hreq hne' hne

theorem gateway_run_returned : ∃ (pool : Pool) (newer older : List Event)
    (waited : Event), pool.log = newer ++ waited :: older ∧
      waited.entry = ⟨.wait, none⟩ ∧ GroupEnded gateway older ∧
      firstFailure older = none := by
  have hreturned : (((server (developed gateway)).runTo anyStep
      (boot Deployment.evening) gatewayRun).calls.lookup 0).any
        (fun call => (returnedErr call).any Option.isNone) = true := by
    decide +kernel
  rw [Option.any_eq_true] at hreturned
  obtain ⟨call, hcall, hnone⟩ := hreturned
  rw [Option.any_eq_true] at hnone
  obtain ⟨err, herr, hnone⟩ := hnone
  obtain rfl := Option.isNone_iff_eq_none.mp hnone
  obtain ⟨hreq, hrest⟩ := returned_of_returnedErr herr
  rcases run_returned (Machine.reach_runTo _) hcall hreq hrest with
    ⟨hsome, -⟩ | ⟨newer, waited, older, hlog, -, hwait, hgroup, hfirst⟩
  · cases hsome
  · exact ⟨_, newer, older, waited, hlog, hwait, hgroup, hfirst.symm⟩

/-- Nothing but `Run` does anything unless the startup has succeeded: the
configuration was loaded, no step failed, and a service with a setup runs
locally. -/
theorem started_up {event : Event} {call : Call}
    (hreach : (server process).Reach admissible (boot clock) pool)
    (hevent : event ∈ pool.log)
    (hcall : pool.calls.lookup event.call = some call)
    (hreq : call.req ≠ .run) :
    ∃ spawned ∈ pool.log, (∃ token, spawned.entry = ⟨.spawn token, ()⟩) ∧
      StartedUp process spawned.older := by
  rcases spawned_or_dormant hreach with ⟨spawned, hspawned, token, hspawn⟩ |
    ⟨-, hcalls⟩
  · obtain ⟨-, -, -, -, hstarted⟩ := started_of_spawn hreach hspawned hspawn
    exact ⟨spawned, hspawned, ⟨token, hspawn⟩, hstarted⟩
  · obtain ⟨found, hfound, hsuffix⟩ := hreach.logSound.recorded event hevent
    rw [hcall, Option.some.injEq] at hfound
    subst hfound
    have hne := List.ne_nil_of_mem (hsuffix.subset List.mem_cons_self)
    exact absurd (hcalls event.call call hcall hne) hreq

theorem gateway_started_up : ∃ spawned : Event,
    (∃ token, spawned.entry = ⟨.spawn token, ()⟩) ∧
      StartedUp (developed gateway) spawned.older := by
  have hserving : ((server (developed gateway)).runTo anyStep
      (boot Deployment.evening) gatewayStop).log.any (fun event =>
        (((server (developed gateway)).runTo anyStep (boot Deployment.evening)
          gatewayStop).calls.lookup event.call).any
            fun call => call.req.serves) = true := by
    decide +kernel
  obtain ⟨event, hevent, hany⟩ := List.any_eq_true.mp hserving
  rw [Option.any_eq_true] at hany
  obtain ⟨call, hcall, hserves⟩ := hany
  have hreq : call.req ≠ .run := by
    intro hrun
    rw [hrun] at hserves
    cases hserves
  obtain ⟨spawned, -, hspawn, hstarted⟩ :=
    started_up (Machine.reach_runTo _) hevent hcall hreq
  exact ⟨spawned, hspawn, hstarted⟩

end Returning

end MessagingPlatform.Lifecycle
