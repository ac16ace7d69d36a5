import MessagingPlatform.Server.Completion

/-!
# Requests in flight during the shutdown

When `http.Server.Shutdown` has returned without an error, every connection is
closed and every call is over, for good.  Hence no request finds the Redis
client closed, and every code that was to be sent was handed to the provider
before the client was closed.  The one way to lose a request or a code is a
shutdown that runs into its timeout.
-/

namespace MessagingPlatform.Lifecycle

open Program
open Interleaving
open Instants
open Errors
open Chronology

variable {process : Process} {admissible : Pool → Label → Prop} {clock : Time}
variable {pool : Pool}

section Counting

/-- How a goroutine comes to be counted. -/
theorem live_cases {before after : State} {op : Op} {response : op.Res}
    {token : Token} (hchange : Change process before ⟨op, response⟩ after)
    (hlive : token ∈ after.live) :
    token ∈ before.live ∨ (op = .enter token ∧ token.counted = [token]) ∨
      op = .spawn token ∨
      (∃ number phone otp, op = .goSend phone otp ∧
        token = .send number phone otp) ∨
      ∃ number, op = .readRequest number ∧ token = .connection number ∧
        number ∈ before.idle := by
  cases hchange with
  | enter other =>
      rcases List.mem_append.mp hlive with hcounted | hold
      · refine Or.inr (Or.inl ?_)
        cases other with
        | connection | rpc =>
            obtain rfl := List.mem_singleton.mp hcounted
            exact ⟨rfl, rfl⟩
        | _ => cases hcounted
      · exact Or.inl hold
  | spawn other =>
      rcases List.mem_cons.mp hlive with rfl | hold
      · exact Or.inr (Or.inr (Or.inl rfl))
      · exact Or.inl hold
  | goSend number phone otp hfresh =>
      rcases List.mem_cons.mp hlive with rfl | hold
      · exact Or.inr (Or.inr (Or.inr (Or.inl ⟨_, phone, otp, rfl, rfl⟩)))
      · exact Or.inl hold
  | readRequest number hidle =>
      rcases List.mem_cons.mp hlive with rfl | hold
      · exact Or.inr (Or.inr (Or.inr (Or.inr ⟨number, rfl, rfl, hidle⟩)))
      · exact Or.inl hold
  | leave | writeLast | writeResponse | close =>
      exact Or.inl (List.mem_filter.mp hlive).1
  | _ => exact Or.inl hlive

/-- Only functions of the process are in the group. -/
theorem goroutine_of_live {token : Token}
    (hreach : (server process).Reach admissible (boot clock) pool)
    (hlive : token ∈ pool.store.live) (hgrouped : token.grouped = true) :
    token ∈ process.params.goroutines := by
  refine invariant (I := fun pool => token ∈ pool.store.live →
    token ∈ process.params.goroutines) ?_ ?_ ?_ ?_ hreach hlive
  · intro hlive
    cases hlive
  · intro pool id task _ ih _
    exact ih
  · intro pool id call op next response after _ ih hdoes hlive
    rcases live_cases hdoes.change hlive with hold | ⟨rfl, hcounted⟩ | rfl |
      ⟨number, phone, otp, -, rfl⟩ | ⟨number, -, rfl, -⟩
    · exact ih hold
    · cases token with
      | connection | rpc => cases hgrouped
      | _ => cases hcounted
    · exact hdoes.guarded.role.2.1
    · cases hgrouped
    · cases hgrouped
  · intro pool after _ ih hdrifts
    rw [hdrifts.kept]
    exact ih

theorem grpcServing_of_change {before after : State} {entry : Entry}
    (hchange : Change process before entry after)
    (hserving : before.grpcServing = true) : after.grpcServing = true := by
  cases hchange with
  | grpcServe => simp [hserving]
  | _ => exact hserving

theorem stopped_of_change {before after : State} {op : Op}
    {response : op.Res} (hchange : Change process before ⟨op, response⟩ after) :
    after.stopped = before.stopped ∨ op = .gracefulStopReturn := by
  cases hchange with
  | gracefulStopReturn => exact Or.inr rfl
  | _ => exact Or.inl rfl

/-- Calls are served by a gRPC server, and by one that has not stopped. -/
theorem rpc_of_live {token : Token}
    (hreach : (server process).Reach admissible (boot clock) pool)
    (hlive : token ∈ pool.store.live) (hrpc : token.isRPC = true) :
    pool.store.grpcServing = true ∧ pool.store.stopped = false := by
  refine invariant (I := fun pool => ∀ token ∈ pool.store.live,
    token.isRPC = true →
      pool.store.grpcServing = true ∧ pool.store.stopped = false)
    ?_ ?_ ?_ ?_ hreach token hlive hrpc
  · intro token hlive
    cases hlive
  · intro pool id task _ ih _
    exact ih
  · intro pool id call op next response after _ ih hdoes token hlive hrpc
    have hbefore : pool.store.grpcServing = true ∧
        pool.store.stopped = false := by
      rcases live_cases hdoes.change hlive with hold | ⟨rfl, -⟩ | rfl |
        ⟨number, phone, otp, -, rfl⟩ | ⟨number, -, rfl, -⟩
      · exact ih token hold hrpc
      · cases token with
        | rpc number => exact process.libraries.accepts_serving hdoes.answers.1
        | _ => cases hrpc
      · have htoken := grouped_goroutine hdoes.guarded.role.2.1
        cases token with
        | rpc number => cases htoken.1
        | _ => cases hrpc
      · cases hrpc
      · cases hrpc
    refine ⟨grpcServing_of_change hdoes.change hbefore.1, ?_⟩
    rcases stopped_of_change hdoes.change with hstopped | rfl
    · exact hstopped.trans hbefore.2
    · -- The server stops when no call is under way.
      have hnone : pool.store.without Token.isRPC := hdoes.answers
      rcases live_cases hdoes.change hlive with hold | ⟨heq, -⟩ | heq |
        ⟨number, phone, otp, heq, -⟩ | ⟨number, heq, -⟩
      · rw [hnone token hold] at hrpc
        cases hrpc
      · cases heq
      · cases heq
      · cases heq
      · cases heq
  · intro pool after _ ih hdrifts
    rw [hdrifts.kept]
    exact ih

/-- Only a process with a gRPC port serves gRPC. -/
theorem hasGRPC_of_serving
    (hreach : (server process).Reach admissible (boot clock) pool)
    (hserving : pool.store.grpcServing = true) :
    process.params.hasGRPC = true := by
  refine invariant (I := fun pool => pool.store.grpcServing = true →
    process.params.hasGRPC = true) ?_ ?_ ?_ ?_ hreach hserving
  · intro hserving
    cases hserving
  · intro pool id task _ ih _
    exact ih
  · intro pool id call op next response after hpool ih hdoes hserving
    by_cases hop : op = .grpcServe
    · subst hop
      obtain ⟨hreq, hholds⟩ := hdoes.guarded.role
      have hlive := live_of_holds hpool hdoes.lookup (by rw [hreq]; nofun)
        hholds
      rw [hreq] at hlive
      have htoken := goroutine_of_live hpool hlive rfl
      unfold Params.goroutines at htoken
      split at htoken
      · next hgrpc => exact hgrpc
      · simp [Task.token] at htoken
    · refine ih ?_
      have hchange := hdoes.change
      cases hchange with
      | grpcServe => exact absurd rfl hop
      | _ => exact hserving
  · intro pool after _ ih hdrifts
    rw [hdrifts.kept]
    exact ih

end Counting

section Closing

/-- No connection is open, and none can be. -/
structure HTTPClosed (state : State) : Prop where
  inShutdown : state.inShutdown = true
  idle : state.idle = []
  live : state.without Token.isConnection

theorem Op.eq_httpShutdown {op : Op} (hstep : op.step = .httpShutdown) :
    op = .httpShutdown := by
  cases op with
  | httpShutdown => rfl
  | _ => cases hstep

theorem Op.eq_httpShutdownReturn {op : Op}
    (hstep : op.step = .httpShutdownReturn) :
    ∃ deadline, op = .httpShutdownReturn deadline := by
  cases op with
  | httpShutdownReturn deadline => exact ⟨deadline, rfl⟩
  | _ => cases hstep

theorem Op.eq_gracefulStopReturn {op : Op}
    (hstep : op.step = .gracefulStopReturn) : op = .gracefulStopReturn := by
  cases op with
  | gracefulStopReturn => rfl
  | _ => cases hstep

theorem Op.eq_bgWait {op : Op} (hstep : op.step = .bgWait) :
    op = .bgWait := by
  cases op with
  | bgWait => rfl
  | _ => cases hstep

theorem Change.inShutdown {before after : State} {response : Unit}
    (hchange : Change process before ⟨.httpShutdown, response⟩ after) :
    after.inShutdown = true := by
  cases hchange with
  | kept hinert => cases hinert
  | httpShutdown => rfl

theorem Change.stopped {before after : State} {response : Unit}
    (hchange : Change process before ⟨.gracefulStopReturn, response⟩ after) :
    after.stopped = true := by
  cases hchange with
  | kept hinert => cases hinert
  | gracefulStopReturn => rfl

theorem Change.closedIdle {before after : State} {deadline : Time}
    (hchange : Change process before ⟨.httpShutdownReturn deadline, .ok ()⟩
      after) : after = { before with idle := [] } := by
  cases hchange with
  | kept hinert => cases hinert
  | httpShutdownReturn => rfl

theorem HTTPClosed.of_does {id : ℕ} {call : Call} {op : Op}
    {response : op.Res} {after : State} (hclosed : HTTPClosed pool.store)
    (hdoes : Does process pool id call op response after) :
    HTTPClosed after := by
  refine ⟨(since_of_change hdoes.change).inShutdown hclosed.inShutdown, ?_, ?_⟩
  · have hanswers := hdoes.answers
    have hchange := hdoes.change
    cases hchange with
    | httpShutdownReturn deadline result => rfl
    | readRequest number hidle =>
        rw [hclosed.idle] at hidle
        cases hidle
    | close number =>
        dsimp only
        rw [hclosed.idle]
        rfl
    | writeResponse number written =>
        -- A server in shutdown keeps no connection.
        have hkept : true = !pool.store.inShutdown := hanswers
        rw [hclosed.inShutdown] at hkept
        cases hkept
    | _ => exact hclosed.idle
  · intro token hlive
    rcases live_cases hdoes.change hlive with hold | ⟨rfl, -⟩ | rfl |
      ⟨number, phone, otp, -, rfl⟩ | ⟨number, -, -, hidle⟩
    · exact hclosed.live token hold
    · cases token with
      | connection number =>
          have hstartable := hdoes.answers.1
          simp [Libraries.startable, hclosed.inShutdown] at hstartable
      | _ => rfl
    · exact (grouped_goroutine hdoes.guarded.role.2.1).2
    · rfl
    · rw [hclosed.idle] at hidle
      cases hidle

/-- The steps before `Shutdown` of the HTTP server returns. -/
def Params.beforeReturn (p : Params) : List Step :=
  [.enter, .ctxDone, .storeShuttingDown, .sleep shutdownDrainDelay,
    .sleepReturn] ++ (p.grpcSteps ++
      [.withTimeout shutdownHTTPTimeout, .httpShutdown])

/-- The steps before the cleanup. -/
def Params.beforeCleanup (p : Params) : List Step :=
  p.beforeReturn ++ [.httpShutdownReturn]

theorem script_beforeCleanup (p : Params) :
    p.script = p.beforeCleanup ++ (p.cleanupSteps ++
      [.withTimeout shutdownOTELTimeout, .metricsShutdown, .tracerShutdown,
        .leave]) := by
  simp [Params.script, Params.beforeCleanup, Params.beforeReturn]

theorem script_beforeReturn (p : Params) :
    p.script = p.beforeReturn ++ (.httpShutdownReturn :: (p.cleanupSteps ++
      [.withTimeout shutdownOTELTimeout, .metricsShutdown, .tracerShutdown,
        .leave])) := by
  rw [script_beforeCleanup, Params.beforeCleanup, List.append_assoc]
  rfl

theorem not_mem_beforeReturn (p : Params) :
    .httpShutdownReturn ∉ p.beforeReturn := by
  unfold Params.beforeReturn Params.grpcSteps
  split <;> decide

theorem not_mem_beforeCleanup (p : Params) :
    .bgWait ∉ p.beforeCleanup ∧ .redisClose ∉ p.beforeCleanup := by
  unfold Params.beforeCleanup Params.beforeReturn Params.grpcSteps
  split <;> decide

/-- The steps have been done. -/
def Reached (steps : List Step) (pool : Pool) : Prop :=
  ∀ step ∈ steps, ∃ event ∈ pool.log, ∃ done answer,
    event.entry = ⟨done, answer⟩ ∧ done.step = step

theorem reached_of_call {id : ℕ} {call : Call} {op : Op}
    {early rest : List Step}
    (hreach : (server process).Reach admissible (boot clock) pool)
    (hcall : pool.calls.lookup id = some call)
    (hscripted : Scripted process.params call.history op)
    (hscript : process.params.script = early ++ rest)
    (hop : op.step ∉ early) : Reached early pool := by
  intro step hstep
  obtain ⟨entry, hmem, hstep⟩ :=
    mem_stepsOf.mp ((hscripted.early hscript hop).subset hstep)
  obtain ⟨event, hevent, -, rfl⟩ := hreach.event_of_mem hcall hmem
  exact ⟨event, hevent, _, _, rfl, hstep⟩

theorem reached_of_event {event : Event} {op : Op} {response : op.Res}
    {early rest : List Step}
    (hreach : (server process).Reach admissible (boot clock) pool)
    (hevent : event ∈ pool.log) (hentry : event.entry = ⟨op, response⟩)
    (hshutdown : op.ofShutdown = true)
    (hscript : process.params.script = early ++ rest)
    (hop : op.step ∉ early) : Reached early pool := by
  intro step hstep
  obtain ⟨earlier, hearlier, done, answer, hdone, hstep, -⟩ :=
    earlier_step hreach hevent hentry hshutdown hscript hop hstep
  exact ⟨earlier, hearlier, done, answer, hdone, hstep⟩

/-- Once `Shutdown` has returned without an error, no connection is open. -/
theorem httpClosed_of_returned {returned : Event} {deadline : Time}
    (hreach : (server process).Reach admissible (boot clock) pool)
    (hreturned : returned ∈ pool.log)
    (hentry : returned.entry = ⟨.httpShutdownReturn deadline, .ok ()⟩) :
    HTTPClosed pool.store := by
  refine invariant (I := fun pool => ∀ event ∈ pool.log, ∀ deadline,
    event.entry = ⟨.httpShutdownReturn deadline, .ok ()⟩ →
      HTTPClosed pool.store) ?_ ?_ ?_ ?_ hreach returned hreturned deadline
    hentry
  · intro event hevent
    cases hevent
  · intro pool id task _ ih _
    exact ih
  · intro pool id call op next response after hpool ih hdoes event hevent
      deadline hentry
    rcases List.mem_cons.mp hevent with rfl | hold
    · cases hentry
      have hrole : call.req = .shutdown := hdoes.guarded.role.1 rfl
      have hreached := reached_of_call hpool hdoes.lookup
        (hdoes.guarded.scripted hrole) (script_beforeReturn _)
        (not_mem_beforeReturn _)
      obtain ⟨started, hstarted, done, answer, hdone, hstep⟩ :=
        hreached .httpShutdown (by simp [Params.beforeReturn])
      obtain rfl := Op.eq_httpShutdown hstep
      have hclosing := (change_of_event hpool hstarted hdone).inShutdown
      have hsince := (respects process).since_event hpool hstarted
      have hnone : pool.store.without Token.isConnection := hdoes.answers
      have hafter := hdoes.change.closedIdle
      subst hafter
      exact ⟨hsince.inShutdown hclosing, rfl, hnone⟩
    · exact (ih event hold deadline hentry).of_does hdoes
  · intro pool after _ ih hdrifts event hevent deadline hentry
    have hclosed := ih event hevent deadline hentry
    rw [hdrifts.kept]
    exact ⟨hclosed.inShutdown, hclosed.idle, hclosed.live⟩

/-- `Shutdown` of the HTTP server returned an error. -/
def shutdownFailed : Entry → Bool
  | ⟨.httpShutdownReturn _, .error _⟩ => true
  | _ => false

/-- No request is being served. -/
def Undisturbed (pool : Pool) : Prop :=
  ∀ id call, pool.calls.lookup id = some call → call.req.serves = true →
    holds call.history = false

/-- When the servers are stopped, no request is being served, unless `Shutdown`
of the HTTP server has failed. -/
theorem undisturbed_of_reached
    (hreach : (server process).Reach admissible (boot clock) pool)
    (hreached : Reached process.params.beforeCleanup pool)
    (hclean : ∀ event ∈ pool.log, shutdownFailed event.entry = false) :
    Undisturbed pool := by
  obtain ⟨returned, hreturned, done, answer, hentry, hstep⟩ :=
    hreached .httpShutdownReturn (by simp [Params.beforeCleanup])
  obtain ⟨deadline, rfl⟩ := Op.eq_httpShutdownReturn hstep
  have hok : answer = .ok () := by
    have hunfailed := hclean returned hreturned
    rw [hentry] at hunfailed
    cases answer with
    | ok value => rfl
    | error err => cases hunfailed
  subst hok
  have hclosed := httpClosed_of_returned hreach hreturned hentry
  intro id call hcall hserves
  rw [Bool.eq_false_iff]
  intro hholds
  have hrun : call.req ≠ .run := by
    intro hreq
    rw [hreq] at hserves
    cases hserves
  have hlive := live_of_holds hreach hcall hrun hholds
  cases hreq : call.req with
  | connection number routes =>
      rw [hreq] at hlive
      cases hclosed.live _ hlive
  | rpc number ctx rpc =>
      rw [hreq] at hlive
      obtain ⟨hserving, hstopped⟩ := rpc_of_live hreach hlive rfl
      have hgrpc := hasGRPC_of_serving hreach hserving
      obtain ⟨stopped, hmem, done, answer, hentry, hstep⟩ :=
        hreached .gracefulStopReturn
          (by simp [Params.beforeCleanup, Params.beforeReturn,
            Params.grpcSteps, hgrpc])
      obtain rfl := Op.eq_gracefulStopReturn hstep
      have hset := ((respects process).since_event hreach hmem).stopped
        (change_of_event hreach hmem hentry).stopped
      rw [hset] at hstopped
      cases hstopped
  | _ =>
      rw [hreq] at hserves
      cases hserves

end Closing

section Sending

/-- After the background goroutines were waited for, none is left. -/
theorem noSend_of_waited {waited : Event}
    (hreach : (server process).Reach admissible (boot clock) pool)
    (hclean : ∀ event ∈ pool.log, shutdownFailed event.entry = false)
    (hwaited : waited ∈ pool.log) (hentry : waited.entry = ⟨.bgWait, ()⟩) :
    pool.store.without Token.isSend := by
  refine invariant (I := fun pool =>
    (∀ event ∈ pool.log, shutdownFailed event.entry = false) →
      ∀ event ∈ pool.log, event.entry = ⟨.bgWait, ()⟩ →
        pool.store.without Token.isSend) ?_ ?_ ?_ ?_ hreach hclean waited
    hwaited hentry
  · intro _ event hevent
    cases hevent
  · intro pool id task _ ih _
    exact ih
  · intro pool id call op next response after hpool ih hdoes hclean event
      hevent hentry
    rw [Pool.execCall, List.forall_mem_cons] at hclean
    rcases List.mem_cons.mp hevent with rfl | hold
    · cases hentry
      have hnone : pool.store.without Token.isSend := hdoes.answers
      have hchange := hdoes.change
      cases hchange with
      | kept hinert => exact hnone
    · have hnone := ih hclean.2 event hold hentry
      have hreached := reached_of_event hpool hold hentry rfl
        (script_beforeCleanup _) (not_mem_beforeCleanup _).1
      have hundisturbed := undisturbed_of_reached hpool hreached hclean.2
      intro token hlive
      rcases live_cases hdoes.change hlive with hlive | ⟨rfl, hcounted⟩ |
        rfl | ⟨number, phone, otp, rfl, -⟩ | ⟨number, -, rfl, -⟩
      · exact hnone token hlive
      · cases token with
        | send number phone otp => cases hcounted
        | _ => rfl
      · have htoken := (grouped_goroutine hdoes.guarded.role.2.1).1
        cases token with
        | send number phone otp => cases htoken
        | _ => rfl
      · obtain ⟨hserves, hholds⟩ := hdoes.guarded.role
        rw [hundisturbed id call hdoes.lookup hserves] at hholds
        cases hholds
      · rfl
  · intro pool after _ ih hdrifts
    rw [hdrifts.kept]
    exact ih

theorem closed_of_redisClosed
    (hreach : (server process).Reach admissible (boot clock) pool)
    (hclosed : pool.store.redisClosed = true) :
    ∃ event ∈ pool.log, ∃ result, event.entry = ⟨.redisClose, result⟩ := by
  refine invariant (I := fun pool => pool.store.redisClosed = true →
    ∃ event ∈ pool.log, ∃ result, event.entry = ⟨.redisClose, result⟩)
    ?_ ?_ ?_ ?_ hreach hclosed
  · intro hclosed
    cases hclosed
  · intro pool id task _ ih _
    exact ih
  · intro pool id call op next response after _ ih hdoes hclosed
    have hkept : pool.store.redisClosed = true →
        ∃ event ∈ (pool.execCall id call op next response after).log,
          ∃ result, event.entry = ⟨.redisClose, result⟩ := by
      intro hbefore
      obtain ⟨event, hevent, hentry⟩ := ih hbefore
      exact ⟨event, List.mem_cons_of_mem _ hevent, hentry⟩
    have hchange := hdoes.change
    cases hchange with
    | redisClose result => exact ⟨_, List.mem_cons_self, result, rfl⟩
    | _ => exact hkept hclosed
  · intro pool after _ ih hdrifts
    rw [hdrifts.kept]
    exact ih

theorem reached_of_redisClosed
    (hreach : (server process).Reach admissible (boot clock) pool)
    (hclosed : pool.store.redisClosed = true) :
    Reached process.params.beforeCleanup pool := by
  obtain ⟨event, hevent, result, hentry⟩ :=
    closed_of_redisClosed hreach hclosed
  exact reached_of_event hreach hevent hentry rfl (script_beforeCleanup _)
    (not_mem_beforeCleanup _).2

/-- The background goroutines were waited for before the client was closed. -/
theorem waited_of_redisClosed
    (hreach : (server process).Reach admissible (boot clock) pool)
    (hclosed : pool.store.redisClosed = true) :
    ∃ waited ∈ pool.log, waited.entry = ⟨.bgWait, ()⟩ := by
  obtain ⟨event, hevent, result, hentry⟩ :=
    closed_of_redisClosed hreach hclosed
  have hscripted := scripted_of_event hreach hevent hentry rfl
  have hmem : Step.redisClose ∈ process.params.script :=
    hscripted.ordered.subset (by simp [Op.step])
  have hsetup : process.params.cleanupSteps = [.bgWait, .redisClose] := by
    unfold Params.cleanupSteps
    split
    · rfl
    · next hsetup =>
        rw [script_beforeCleanup, Params.cleanupSteps, if_neg hsetup] at hmem
        rcases List.mem_append.mp hmem with hbefore | hlast
        · exact absurd hbefore (not_mem_beforeCleanup _).2
        · simp at hlast
  have hscript : process.params.script =
      (process.params.beforeCleanup ++ [.bgWait]) ++ (.redisClose ::
        [.withTimeout shutdownOTELTimeout, .metricsShutdown, .tracerShutdown,
          .leave]) := by
    rw [script_beforeCleanup, hsetup, List.append_assoc]
    rfl
  have hnot : Step.redisClose ∉ process.params.beforeCleanup ++ [.bgWait] := by
    simp [(not_mem_beforeCleanup process.params).2]
  obtain ⟨waited, hwaited, done, answer, hdone, hstep⟩ :=
    reached_of_event hreach hevent hentry rfl hscript hnot .bgWait (by simp)
  obtain rfl := Op.eq_bgWait hstep
  exact ⟨waited, hwaited, hdone⟩

theorem Task.eq_send {task : Task} {number : ℕ} {phone otp : String}
    (htoken : .send number phone otp = task.token) :
    task = .send number phone otp := by
  cases task with
  | send other phone otp =>
      cases htoken
      rfl
  | _ => cases htoken

def isService : Entry → Bool
  | ⟨.service _, _⟩ => true
  | _ => false

theorem entry_of_isService {entry : Entry} (hservice : isService entry = true) :
    ∃ (op : Operations.Op) (response : op.Res),
      entry = ⟨.service op, response⟩ := by
  unfold isService at hservice
  split at hservice
  · exact ⟨_, _, rfl⟩
  · cases hservice

/-- The chat management service with a connection that asks for a code. -/
def chatmgmtServing : List Label :=
  launch 0 .run 8 ++ launch 1 .serveHTTP 2 ++ launch 2 .serveGRPC 2 ++
    launch 3 .shutdown 1 ++
    launch 4 (.connection 0 [.gateway ⟨none, some "203.0.113.7:50000"⟩
      (.requestOTP ⟨Deployment.phone⟩)]) 2

/-- The shutdown up to the end of the drain delay, and the stop of the
servers. -/
def chatmgmtStop : List Label :=
  .env .signal :: proceed 3 3 ++
    .env (.store (.tick (Deployment.evening + shutdownDrainDelay))) ::
    proceed 3 5

/-- The shutdown gives up on a request that takes too long. -/
def chatmgmtTimeout : List Label :=
  chatmgmtServing ++ [.exec 4 (.service .ok)] ++ chatmgmtStop ++
    .env (.store (.tick (Deployment.evening + shutdownDrainDelay +
      shutdownHTTPTimeout))) ::
    .exec 3 .timeout :: proceed 3 2 ++ [.exec 4 (.service .ok)]

/-- A request finds the Redis client closed only when `Shutdown` of the HTTP
server has failed. -/
theorem refused_only_after_failure {served : Event} {op : Operations.Op}
    {response : op.Res}
    (hreach : (server process).Reach admissible (boot clock) pool)
    (hserved : served ∈ pool.log)
    (hentry : served.entry = ⟨.service op, response⟩)
    (hclosed : served.before.redisClosed = true) :
    ∃ failed ∈ pool.log, shutdownFailed failed.entry = true := by
  obtain ⟨newer, older, hlog⟩ := List.append_of_mem hserved
  obtain ⟨current, call, next, hcurrent, rfl, hstore, hcall, hhistory,
    hrest⟩ := Reach.at_event hreach hlog
  by_contra hnone
  have hclean : ∀ event ∈ current.log, shutdownFailed event.entry = false := by
    intro event hevent
    rw [Bool.eq_false_iff]
    intro hfailed
    refine hnone ⟨event, ?_, hfailed⟩
    rw [hlog]
    exact List.mem_append_right _ (List.mem_cons_of_mem _ hevent)
  rw [← hstore] at hclosed
  have hundisturbed := undisturbed_of_reached hcurrent
    (reached_of_redisClosed hcurrent hclosed) hclean
  have hguarded := hcurrent.guard_next (sat_body process) hcall hrest
  rw [hentry] at hguarded
  obtain ⟨hserves, hholds⟩ := hguarded.role
  rw [hundisturbed served.call call hcall hserves] at hholds
  cases hholds

theorem chatmgmt_refused_after_timeout : ∃ served failed : Event,
    served.before.redisClosed = true ∧ shutdownFailed failed.entry = true := by
  have hlog : ((server (developed chatmgmt)).runTo anyStep
      (boot Deployment.evening) chatmgmtTimeout).log.any (fun event =>
        isService event.entry && event.before.redisClosed) = true := by
    decide +kernel
  obtain ⟨served, hserved, hrefused⟩ := List.any_eq_true.mp hlog
  rw [Bool.and_eq_true] at hrefused
  obtain ⟨op, response, hentry⟩ := entry_of_isService hrefused.1
  obtain ⟨failed, -, hfailed⟩ := refused_only_after_failure
    (Machine.reach_runTo _) hserved hentry hrefused.2
  exact ⟨served, failed, hrefused.2, hfailed⟩

theorem Change.sending {before after : State} {phone otp : String}
    {number : ℕ}
    (hchange : Change process before ⟨.goSend phone otp, number⟩ after) :
    .send number phone otp ∈ after.live := by
  cases hchange with
  | kept hinert => cases hinert
  | goSend => exact List.mem_cons_self

def startsSending : Entry → Bool
  | ⟨.goSend _ _, _⟩ => true
  | _ => false

theorem entry_of_startsSending {entry : Entry}
    (hsending : startsSending entry = true) :
    ∃ phone otp number, entry = ⟨.goSend phone otp, number⟩ := by
  unfold startsSending at hsending
  split at hsending
  · exact ⟨_, _, _, rfl⟩
  · cases hsending

/-- The code is issued and sent before the shutdown closes the client. -/
def chatmgmtClose : List Label :=
  chatmgmtServing ++
    ((Deployment.issuing 123456).take 6).map (fun choice =>
      .exec 4 (.service choice)) ++
    .exec 4 (.number 0) :: proceed 4 1 ++ chatmgmtStop ++
    launch 5 (.send 0 Deployment.phone "123456") 1 ++
    .exec 5 (.service .ok) :: proceed 5 1 ++ proceed 3 3

/-- When the Redis client is closed after a `Shutdown` without an error, every
request was answered and every code handed to the provider. -/
theorem nothing_lost
    (hreach : (server process).Reach admissible (boot clock) pool)
    (hclean : ∀ event ∈ pool.log, shutdownFailed event.entry = false)
    (hclosed : pool.store.redisClosed = true) :
    Undisturbed pool ∧ ∀ event ∈ pool.log, ∀ phone otp number,
      event.entry = ⟨.goSend phone otp, number⟩ →
        ∃ sent ∈ pool.log, ∃ result sender,
          sent.entry = ⟨.sendOTP phone otp, result⟩ ∧
          pool.calls.lookup sent.call = some sender ∧
          sender.req = .send number phone otp := by
  refine ⟨undisturbed_of_reached hreach
    (reached_of_redisClosed hreach hclosed) hclean, ?_⟩
  intro event hevent phone otp number hentry
  have hlive := (change_of_event hreach hevent hentry).sending
  obtain ⟨waited, hwaited, hwait⟩ := waited_of_redisClosed hreach hclosed
  have hnone := noSend_of_waited hreach hclean hwaited hwait
  rcases live_or_left hreach hevent hlive rfl with hlive |
    ⟨left, hleft, leftWith, hleave⟩
  · cases hnone _ hlive
  · obtain ⟨sender, hsender, -, hguarded⟩ :=
      guarded_of_event hreach hleft hleave
    obtain ⟨htoken, -, -, hsent⟩ := hguarded.role
    obtain ⟨result, hmem⟩ := hsent number phone otp rfl
    obtain ⟨sent, hsentMem, hcall, hsentEntry, -⟩ :=
      (respects process).precedes_of_older hreach hleft hmem
    refine ⟨sent, hsentMem, result, sender, hsentEntry, ?_, Task.eq_send htoken⟩
    rw [hcall]
    exact hsender

theorem chatmgmt_nothing_lost : ∃ (pool : Pool) (sent : Event)
    (phone otp : String), Undisturbed pool ∧ sent ∈ pool.log ∧
      ∃ result, sent.entry = ⟨.sendOTP phone otp, result⟩ := by
  have hpool : ((server (developed chatmgmt)).runTo anyStep
        (boot Deployment.evening) chatmgmtClose).log.all
          (fun event => shutdownFailed event.entry == false) = true ∧
      ((server (developed chatmgmt)).runTo anyStep (boot Deployment.evening)
        chatmgmtClose).store.redisClosed = true ∧
      ((server (developed chatmgmt)).runTo anyStep (boot Deployment.evening)
        chatmgmtClose).log.any (fun event => startsSending event.entry) =
          true := by
    decide +kernel
  obtain ⟨hclean, hclosed, hstarted⟩ := hpool
  obtain ⟨event, hevent, hsending⟩ := List.any_eq_true.mp hstarted
  obtain ⟨phone, otp, number, hentry⟩ := entry_of_startsSending hsending
  obtain ⟨hundisturbed, hsent⟩ := nothing_lost (Machine.reach_runTo _)
    (fun event hevent => eq_of_beq (List.all_eq_true.mp hclean event hevent))
    hclosed
  obtain ⟨sent, hmem, result, -, hresult, -⟩ :=
    hsent event hevent phone otp number hentry
  exact ⟨_, sent, phone, otp, hundisturbed, hmem, result, hresult⟩

end Sending

end MessagingPlatform.Lifecycle
