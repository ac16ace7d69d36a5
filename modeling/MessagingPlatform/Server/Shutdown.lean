import MessagingPlatform.Core.Chronology
import MessagingPlatform.Server.Goroutines
import MessagingPlatform.System.Deployment

/-!
# Graceful shutdown

What the shutdown of a server process guarantees, over every interleaving of
its goroutines: how long before the servers stop the health check has failed,
that `Run` returns only when everything it started has ended, and that no
request is served, and no code left unsent, once the Redis client is closed.
-/

namespace MessagingPlatform.Lifecycle

open Program
open Interleaving
open Instants
open Errors
open Freshness
open Chronology

section Scripts

theorem mem_stepsOf {history : History} {step : Step} :
    step ∈ stepsOf history ↔ ∃ entry ∈ history, entry.1.step = step := by
  simp [stepsOf]

/-- Before an operation that is not among them, the first steps of the script
have been done. -/
theorem Scripted.early {p : Params} {history : History} {op : Op}
    {early rest : List Step} (hscripted : Scripted p history op)
    (hscript : p.script = early ++ rest) (hop : op.step ∉ early) :
    early <+: stepsOf history := by
  have hordered := hscripted.ordered
  rw [hscript] at hordered
  rcases List.prefix_or_prefix_of_prefix (List.prefix_append early rest)
    hordered with hearly | htaken
  · rcases List.prefix_concat_iff.mp hearly with heq | hearly
    · exact absurd (by simp [heq]) hop
    · exact hearly
  · exact absurd (htaken.subset (by simp)) hop

end Scripts

section Order

variable {process : Process} {admissible : Pool → Label → Prop} {clock : Time}
variable {pool : Pool} {event : Event}

/-- From an earlier to a later state: time has passed, and what was stopped or
closed is still so. -/
structure Since (before after : State) : Prop where
  clock : before.store.clock ≤ after.store.clock
  shuttingDown : before.shuttingDown = true → after.shuttingDown = true
  inShutdown : before.inShutdown = true → after.inShutdown = true
  stopped : before.stopped = true → after.stopped = true
  redisClosed : before.redisClosed = true → after.redisClosed = true

theorem since_of_change {before after : State} {entry : Entry}
    (hchange : Change process before entry after) : Since before after := by
  have hclock := (clock_of_change hchange).ge
  cases hchange with
  | storeShuttingDown => exact ⟨hclock, fun _ => rfl, id, id, id⟩
  | gracefulStopReturn => exact ⟨hclock, id, id, fun _ => rfl, id⟩
  | httpShutdown => exact ⟨hclock, id, fun _ => rfl, id, id⟩
  | redisClose result => exact ⟨hclock, id, id, id, fun _ => rfl⟩
  | _ => exact ⟨hclock, id, id, id, id⟩

theorem since_of_drifts {before after : State}
    (hdrifts : Drifts before after) : Since before after := by
  have hclock := hdrifts.clock
  rw [hdrifts.kept] at hclock ⊢
  exact ⟨hclock, id, id, id, id⟩

theorem respects (process : Process) : Respects (server process) Since where
  refl _ := ⟨le_refl _, id, id, id, id⟩
  trans hleft hright :=
    ⟨hleft.clock.trans hright.clock,
      hright.shuttingDown ∘ hleft.shuttingDown,
      hright.inShutdown ∘ hleft.inShutdown,
      hright.stopped ∘ hleft.stopped,
      hright.redisClosed ∘ hleft.redisClosed⟩
  performs hperform := since_of_change (change_of_perform hperform)
  advances hadvance := since_of_drifts (drifts_of_advance hadvance)

variable {op : Op} {response : op.Res}

theorem change_of_event
    (hreach : (server process).Reach admissible (boot clock) pool)
    (hevent : event ∈ pool.log) (hentry : event.entry = ⟨op, response⟩) :
    Change process event.before ⟨op, response⟩ event.after := by
  obtain ⟨choice, hperform⟩ := hreach.logSound.performed event hevent
  rw [← hentry]
  exact change_of_perform hperform

theorem answers_of_event
    (hreach : (server process).Reach admissible (boot clock) pool)
    (hevent : event ∈ pool.log) (hentry : event.entry = ⟨op, response⟩) :
    Answers process event.before ⟨op, response⟩ := by
  obtain ⟨choice, hperform⟩ := hreach.logSound.performed event hevent
  rw [← hentry]
  exact answers_of_perform hperform

theorem guarded_of_event
    (hreach : (server process).Reach admissible (boot clock) pool)
    (hevent : event ∈ pool.log) (hentry : event.entry = ⟨op, response⟩) :
    ∃ call, pool.calls.lookup event.call = some call ∧
      ⟨op, response⟩ :: event.older <:+ call.history ∧
      Guarded process call.req event.older op := by
  obtain ⟨call, hcall, hsuffix, hguarded⟩ :=
    hreach.event_guard (sat_body process) hevent
  rw [hentry] at hsuffix hguarded
  exact ⟨call, hcall, hsuffix, hguarded⟩

/-- An operation of the shutdown is performed by the shutdown. -/
theorem scripted_of_event
    (hreach : (server process).Reach admissible (boot clock) pool)
    (hevent : event ∈ pool.log) (hentry : event.entry = ⟨op, response⟩)
    (hop : op.ofShutdown = true) :
    Scripted process.params event.older op := by
  obtain ⟨call, -, -, hguarded⟩ := guarded_of_event hreach hevent hentry
  refine hguarded.scripted ?_
  have hrole := hguarded.role
  cases op <;>
    first
    | exact hrole.1 rfl
    | cases hop

/-- The first steps of the script were performed before an operation that is
not among them. -/
theorem earlier_step {step : Step} {early rest : List Step}
    (hreach : (server process).Reach admissible (boot clock) pool)
    (hevent : event ∈ pool.log) (hentry : event.entry = ⟨op, response⟩)
    (hshutdown : op.ofShutdown = true)
    (hscript : process.params.script = early ++ rest)
    (hop : op.step ∉ early) (hstep : step ∈ early) :
    ∃ earlier ∈ pool.log, ∃ done answer, earlier.entry = ⟨done, answer⟩ ∧
      done.step = step ∧ Precedes Since earlier event := by
  have hscripted := scripted_of_event hreach hevent hentry hshutdown
  have hdone := (hscripted.early hscript hop).subset hstep
  obtain ⟨entry, hmem, hstep⟩ := mem_stepsOf.mp hdone
  obtain ⟨earlier, hearlier, -, rfl, hprecedes⟩ :=
    (respects process).precedes_of_older hreach hevent hmem
  exact ⟨earlier, hearlier, _, _, rfl, hstep, hprecedes⟩

end Order

section Draining

variable {process : Process} {admissible : Pool → Label → Prop} {clock : Time}
variable {pool : Pool}

theorem Op.eq_storeShuttingDown {op : Op}
    (hstep : op.step = .storeShuttingDown) : op = .storeShuttingDown := by
  cases op with
  | storeShuttingDown => rfl
  | _ => cases hstep

theorem Op.eq_sleepReturn {op : Op} (hstep : op.step = .sleepReturn) :
    ∃ wake, op = .sleepReturn wake := by
  cases op with
  | sleepReturn wake => exact ⟨wake, rfl⟩
  | _ => cases hstep

theorem Change.shuttingDown {before after : State} {response : Unit}
    (hchange : Change process before ⟨.storeShuttingDown, response⟩ after) :
    after.shuttingDown = true := by
  cases hchange with
  | kept hinert => cases hinert
  | storeShuttingDown => rfl

/-- The flag was set when the shutdown began to sleep. -/
theorem stored_of_sleep {sleeping : Event} {wake : Time}
    (hreach : (server process).Reach admissible (boot clock) pool)
    (hsleeping : sleeping ∈ pool.log)
    (hentry : sleeping.entry = ⟨.sleep shutdownDrainDelay, wake⟩) :
    ∃ stored ∈ pool.log, stored.entry = ⟨.storeShuttingDown, ()⟩ ∧
      stored.after.shuttingDown = true ∧ Precedes Since stored sleeping := by
  have hscript : process.params.script =
      [.enter, .ctxDone, .storeShuttingDown] ++
        process.params.script.drop 3 := rfl
  have hmem : Step.storeShuttingDown ∈
      [Step.enter, .ctxDone, .storeShuttingDown] := by decide
  obtain ⟨stored, hstored, op, response, hop, hstep, hprecedes⟩ :=
    earlier_step hreach hsleeping hentry rfl hscript (by simp [Op.step]) hmem
  obtain rfl := Op.eq_storeShuttingDown hstep
  exact ⟨stored, hstored, hop,
    (change_of_event hreach hstored hop).shuttingDown, hprecedes⟩

/-- An operation by which a server stops to accept. -/
def Op.stops : Op → Bool
  | .gracefulStop => true
  | .httpShutdown => true
  | _ => false

/-- The shutdown has slept, as long as it said, when it stops a server. -/
theorem slept_of_stop {stop : Event}
    (hreach : (server process).Reach admissible (boot clock) pool)
    (hstop : stop ∈ pool.log) (hstops : stop.entry.1.stops = true) :
    ∃ sleeping ∈ pool.log, ∃ wake,
      sleeping.entry = ⟨.sleep shutdownDrainDelay, wake⟩ ∧
      wake ≤ stop.before.store.clock := by
  have hscript : process.params.script =
      [.enter, .ctxDone, .storeShuttingDown, .sleep shutdownDrainDelay,
        .sleepReturn] ++ process.params.script.drop 5 := rfl
  have hmem : Step.sleepReturn ∈ [Step.enter, .ctxDone, .storeShuttingDown,
      .sleep shutdownDrainDelay, .sleepReturn] := by decide
  obtain ⟨hshutdown, hnot⟩ : stop.entry.1.ofShutdown = true ∧
      stop.entry.1.step ∉ [Step.enter, .ctxDone, .storeShuttingDown,
        .sleep shutdownDrainDelay, .sleepReturn] := by
    generalize stop.entry.1 = op at hstops
    cases op with
    | gracefulStop | httpShutdown => exact ⟨rfl, by simp [Op.step]⟩
    | _ => cases hstops
  obtain ⟨woken, hwoken, op, response, hop, hstep, hbefore⟩ :=
    earlier_step hreach hstop rfl hshutdown hscript hnot hmem
  obtain ⟨wake, rfl⟩ := Op.eq_sleepReturn hstep
  have hwake : wake ≤ woken.before.store.clock :=
    answers_of_event hreach hwoken hop
  have hslept := (scripted_of_event hreach hwoken hop rfl).slept wake rfl
  obtain ⟨sleeping, hsleeping, -, hentry, -⟩ :=
    (respects process).precedes_of_older hreach hwoken hslept
  have hclock : woken.before.store.clock ≤ stop.before.store.clock := by
    rw [← clock_of_change (change_of_event hreach hwoken hop)]
    exact hbefore.clock
  exact ⟨sleeping, hsleeping, wake, hentry, hwake.trans hclock⟩

/-- A health check that found the flag unset lies the whole delay before the
stop of a server. -/
theorem load_before_stop {loaded stop : Event}
    (hreach : (server process).Reach admissible (boot clock) pool)
    (hloaded : loaded ∈ pool.log)
    (hentry : loaded.entry = ⟨.loadShuttingDown, false⟩)
    (hstop : stop ∈ pool.log) (hstops : stop.entry.1.stops = true) :
    loaded.before.store.clock + shutdownDrainDelay ≤
      stop.before.store.clock := by
  obtain ⟨sleeping, hsleeping, wake, hsleep, hwake⟩ :=
    slept_of_stop hreach hstop hstops
  obtain ⟨stored, hstored, hstore, hflag, hbefore⟩ :=
    stored_of_sleep hreach hsleeping hsleep
  have hunset : false = loaded.before.shuttingDown :=
    answers_of_event hreach hloaded hentry
  have hne : loaded ≠ stored := by
    rintro rfl
    rw [hstore] at hentry
    cases hentry
  have hfirst : Precedes Since loaded stored := by
    rcases (respects process).precedes_or hreach hloaded hstored hne with
      hfirst | hlast
    · exact hfirst
    · have hset := hlast.shuttingDown hflag
      rw [← hunset] at hset
      cases hset
  have hslept : wake = sleeping.before.store.clock + shutdownDrainDelay :=
    answers_of_event hreach hsleeping hsleep
  calc
    loaded.before.store.clock + shutdownDrainDelay =
        loaded.after.store.clock + shutdownDrainDelay := by
      rw [clock_of_change (change_of_event hreach hloaded hentry)]
    _ ≤ stored.before.store.clock + shutdownDrainDelay :=
      Int.add_le_add_right hfirst.clock _
    _ = stored.after.store.clock + shutdownDrainDelay := by
      rw [clock_of_change (change_of_event hreach hstored hstore)]
    _ ≤ sleeping.before.store.clock + shutdownDrainDelay :=
      Int.add_le_add_right hbefore.clock _
    _ = wake := hslept.symm
    _ ≤ stop.before.store.clock := hwake

/-- A health check that is answered with 200. -/
def saysHealthy : Entry → Bool
  | ⟨.writeResponse _ (.health 200 _), _⟩ => true
  | _ => false

theorem entry_of_saysHealthy {entry : Entry}
    (hhealthy : saysHealthy entry = true) : ∃ number body keepAlive,
      entry = ⟨.writeResponse number (.health 200 body), keepAlive⟩ := by
  unfold saysHealthy at hhealthy
  split at hhealthy
  · exact ⟨_, _, _, rfl⟩
  · cases hhealthy

/-- A process with the default configuration and injected listeners. -/
def developed (params : Params) : Process where
  params := params
  listeners := ⟨true, true⟩
  koanf := Settings.weakly
  environ := []
  auth := Deployment.deployment []
  quote := fun text => "\"" ++ text ++ "\""
  libraries := .prompt

/-- Some operations of a goroutine, without an accident. -/
def proceed (id count : ℕ) : List Label := List.replicate count (.exec id .ok)

def launch (id : ℕ) (task : Task) (count : ℕ) : List Label :=
  .start id task :: proceed id count

/-- The gateway answers a health check, is signalled, drains, and stops its
server. -/
def gatewayStop : List Label :=
  launch 0 .run 3 ++ launch 1 .serveHTTP 2 ++
    launch 2 (.connection 0 [.healthz]) 4 ++ launch 3 .shutdown 1 ++
    .env .signal :: proceed 3 3 ++
    .env (.store (.tick (Deployment.evening + shutdownDrainDelay))) ::
    proceed 3 3

/-- Whoever is told that the service is healthy has at least the drain delay
until a server stops to accept.  It counts from the load of the flag that the
answer reports, the operation right before the answer. -/
theorem healthy_until_drained {written stop : Event}
    (hreach : (server process).Reach admissible (boot clock) pool)
    (hwritten : written ∈ pool.log)
    (hhealthy : saysHealthy written.entry = true)
    (hstop : stop ∈ pool.log) (hstops : stop.entry.1.stops = true) :
    ∃ loaded ∈ pool.log, loaded.call = written.call ∧
      loaded.entry = ⟨.loadShuttingDown, false⟩ ∧
      written.older = loaded.entry :: loaded.older ∧
      Precedes Since loaded written ∧
      loaded.before.store.clock + shutdownDrainDelay ≤
        stop.before.store.clock := by
  obtain ⟨number, body, keepAlive, hentry⟩ := entry_of_saysHealthy hhealthy
  obtain ⟨call, -, -, hguarded⟩ := guarded_of_event hreach hwritten hentry
  have hhead := hguarded.role.2.2 body rfl
  obtain ⟨older, holder⟩ := List.head?_eq_some_iff.mp hhead
  obtain ⟨loaded, hloaded, hcall, hload, hrest, hbefore⟩ :=
    (respects process).precedes_of_suffix hreach hwritten ⟨[], holder.symm⟩
  refine ⟨loaded, hloaded, hcall, hload, ?_, hbefore,
    load_before_stop hreach hloaded hload hstop hstops⟩
  rw [holder, hload, hrest]

theorem gateway_healthy_until_drained :
    ∃ written stop loaded : Event, saysHealthy written.entry = true ∧
      stop.entry.1.stops = true ∧ loaded.call = written.call ∧
      written.older = loaded.entry :: loaded.older ∧
      Precedes Since loaded written ∧
      loaded.before.store.clock + shutdownDrainDelay ≤
        stop.before.store.clock := by
  have hlog : ((server (developed gateway)).runTo anyStep
        (boot Deployment.evening) gatewayStop).log.any
          (fun event => saysHealthy event.entry) = true ∧
      ((server (developed gateway)).runTo anyStep (boot Deployment.evening)
        gatewayStop).log.any (fun event => event.entry.1.stops) = true := by
    decide +kernel
  obtain ⟨written, hwritten, hhealthy⟩ := List.any_eq_true.mp hlog.1
  obtain ⟨stop, hstop, hstops⟩ := List.any_eq_true.mp hlog.2
  obtain ⟨loaded, -, hcall, -, hlast, hbefore, hdrained⟩ :=
    healthy_until_drained (Machine.reach_runTo _) hwritten hhealthy hstop hstops
  exact ⟨written, stop, loaded, hhealthy, hstops, hcall, hlast, hbefore,
    hdrained⟩

end Draining

end MessagingPlatform.Lifecycle
