import MessagingPlatform.Core.Freshness
import MessagingPlatform.Server.Lifecycle
import MessagingPlatform.Store.Effects

/-!
# What the goroutines of a server do

Two views of an operation: what it changes in the state that the goroutines
share, and which goroutine performs it, after which operations of its own.
-/

namespace MessagingPlatform.Lifecycle

open Program
open Interleaving
open Instants
open Errors
open Primitives
open Mappers
open ClientAddress
open Settings
open AuthHandler
open Effects

section Changes

/-- What an answer says about the state it was given in. -/
def Answers (process : Process) (state : State) : Entry → Prop
  | ⟨.enter token, _⟩ =>
      process.libraries.startable state token = true ∧ token ∉ state.begun
  | ⟨.wait, err⟩ => state.without Token.grouped ∧ err = state.groupErr
  | ⟨.httpServeReturn, result⟩ =>
      (result = .serverClosed ↔ state.inShutdown = true)
  | ⟨.grpcServeReturn, result⟩ => result = .ok () → state.stopped = true
  | ⟨.ctxDone, _⟩ => state.cancelled = true
  | ⟨.sleep duration, wake⟩ => wake = state.store.clock + duration
  | ⟨.sleepReturn wake, _⟩ => wake ≤ state.store.clock
  | ⟨.gracefulStopReturn, _⟩ => state.without Token.isRPC
  | ⟨.withTimeout timeout, deadline⟩ => deadline = state.store.clock + timeout
  | ⟨.httpShutdownReturn _, .ok ()⟩ => state.without Token.isConnection
  | ⟨.bgWait, _⟩ => state.without Token.isSend
  | ⟨.loadShuttingDown, shuttingDown⟩ => shuttingDown = state.shuttingDown
  | ⟨.writeResponse _ _, keepAlive⟩ => keepAlive = !state.inShutdown
  | _ => True

/-- The operations that change nothing. -/
def inert : Entry → Bool
  | ⟨.traceExporter _, _⟩ => true
  | ⟨.metricExporter _, _⟩ => true
  | ⟨.loadAWSConfig, _⟩ => true
  | ⟨.newRedisClient, _⟩ => true
  | ⟨.generateKey, _⟩ => true
  | ⟨.registerGateway, _⟩ => true
  | ⟨.listen _, _⟩ => true
  | ⟨.wait, _⟩ => true
  | ⟨.httpServeReturn, .serverClosed⟩ => true
  | ⟨.grpcServeReturn, _⟩ => true
  | ⟨.ctxDone, _⟩ => true
  | ⟨.sleep _, _⟩ => true
  | ⟨.sleepReturn _, _⟩ => true
  | ⟨.withTimeout _, _⟩ => true
  | ⟨.httpShutdownReturn _, .error _⟩ => true
  | ⟨.bgWait, _⟩ => true
  | ⟨.metricsShutdown _, _⟩ => true
  | ⟨.tracerShutdown _, _⟩ => true
  | ⟨.readRequest _, opened⟩ => !opened
  | ⟨.loadShuttingDown, _⟩ => true
  | _ => false

/-- What an operation changes. -/
inductive Change (process : Process) (state : State) : Entry → State → Prop
  | kept {entry : Entry} (hinert : inert entry = true) :
      Change process state entry state
  | refused {op : Operations.Op} {response : op.Res}
      (hclosed : state.redisClosed = true)
      (hresponse : op.failure "redis: client is closed" = some response) :
      Change process state ⟨.service op, response⟩ state
  | enter (token : Token) :
      Change process state ⟨.enter token, ()⟩ { state with
        begun := token :: state.begun
        live := token.counted ++ state.live }
  | spawn (token : Token) :
      Change process state ⟨.spawn token, ()⟩
        { state with live := token :: state.live }
  | leave (token : Token) (result : Option GoError) :
      Change process state ⟨.leave token result, ()⟩ { state with
        live := state.live.filter (· ≠ token)
        groupErr := state.groupErr.or result }
  | httpServe :
      Change process state ⟨.httpServe, ()⟩ { state with
        httpServing := state.httpServing || !state.inShutdown }
  | httpServeFailed (text : String) :
      Change process state ⟨.httpServeReturn, .failed text⟩
        { state with httpServing := false }
  | grpcServe :
      Change process state ⟨.grpcServe, ()⟩ { state with
        grpcServing := state.grpcServing || !state.quit }
  | storeShuttingDown :
      Change process state ⟨.storeShuttingDown, ()⟩
        { state with shuttingDown := true }
  | gracefulStop :
      Change process state ⟨.gracefulStop, ()⟩ { state with quit := true }
  | gracefulStopReturn :
      Change process state ⟨.gracefulStopReturn, ()⟩
        { state with stopped := true }
  | httpShutdown :
      Change process state ⟨.httpShutdown, ()⟩ { state with inShutdown := true }
  | httpShutdownReturn (deadline : Time) (result : Except GoError Unit) :
      Change process state ⟨.httpShutdownReturn deadline, result⟩
        { state with idle := [] }
  | redisClose (result : Except GoError Unit) :
      Change process state ⟨.redisClose, result⟩
        { state with redisClosed := true }
  | readFirst {number : ℕ} (hlive : .connection number ∈ state.live) :
      Change process state ⟨.readRequest number, true⟩ state
  | readRequest (number : ℕ) (hidle : number ∈ state.idle) :
      Change process state ⟨.readRequest number, true⟩ { state with
        idle := state.idle.filter (· ≠ number)
        live := .connection number :: state.live }
  | writeLast (number : ℕ) (response : HTTPResponse) :
      Change process state ⟨.writeResponse number response, false⟩ { state with
        live := state.live.filter (· ≠ .connection number) }
  | writeResponse (number : ℕ) (response : HTTPResponse) :
      Change process state ⟨.writeResponse number response, true⟩ { state with
        live := state.live.filter (· ≠ .connection number)
        idle := number :: state.idle }
  | close (number : ℕ) :
      Change process state ⟨.close number, ()⟩ { state with
        live := state.live.filter (· ≠ .connection number)
        idle := state.idle.filter (· ≠ number) }
  | service {op : Operations.Op} {choice : Operations.Choice}
      {response : op.Res} {store : Tables.Store}
      (hperform : Operations.perform process.auth op choice state.store =
        some (response, store)) :
      Change process state ⟨.service op, response⟩ { state with store := store }
  | goSend (number : ℕ) (phone otp : String) (hfresh : number ∉ state.sends) :
      Change process state ⟨.goSend phone otp, number⟩ { state with
        sends := number :: state.sends
        live := .send number phone otp :: state.live }
  | sendOTP {phone otp : String} {choice : Operations.Choice}
      {response : Except GoError Unit} {store : Tables.Store}
      (hperform : Operations.perform process.auth (.sendOTP phone otp) choice
        state.store = some (response, store)) :
      Change process state ⟨.sendOTP phone otp, response⟩
        { state with store := store }

variable {process : Process} {state after : State} {op : Op} {choice : Choice}
variable {response : op.Res}

theorem eq_of_map {Answer Found : Type} {found : Option Found}
    {answered : Found → Answer} {answer : Answer}
    (hmap : (found.map fun value => (answered value, state)) =
      some (answer, after)) : after = state := by
  simp only [Option.map_eq_some_iff, Prod.mk.injEq] at hmap
  obtain ⟨-, -, -, rfl⟩ := hmap
  rfl

theorem change_of_serveOutcome {result : ServeError}
    (houtcome : serveOutcome state choice = some (result, after)) :
    Change process state ⟨.httpServeReturn, result⟩ after := by
  cases choice with
  | ok =>
      simp only [serveOutcome, Option.ite_none_right_eq_some, Option.some.injEq,
        Prod.mk.injEq] at houtcome
      obtain ⟨-, rfl, rfl⟩ := houtcome
      exact .kept rfl
  | fault text =>
      simp only [serveOutcome, Option.ite_none_left_eq_some, Option.some.injEq,
        Prod.mk.injEq] at houtcome
      obtain ⟨-, rfl, rfl⟩ := houtcome
      exact .httpServeFailed text
  | _ => cases houtcome

theorem change_of_shutdownOutcome {deadline : Time}
    {result : Except GoError Unit}
    (houtcome : shutdownOutcome deadline state choice = some (result, after)) :
    Change process state ⟨.httpShutdownReturn deadline, result⟩ after := by
  by_cases htimeout : choice = .timeout
  · subst htimeout
    simp only [shutdownOutcome, Option.ite_none_right_eq_some,
      Option.some.injEq, Prod.mk.injEq] at houtcome
    obtain ⟨-, rfl, rfl⟩ := houtcome
    exact .kept rfl
  · rw [shutdownOutcome.eq_2 _ _ _ htimeout] at houtcome
    simp only [Option.ite_none_left_eq_some, Option.map_eq_some_iff,
      Prod.mk.injEq] at houtcome
    obtain ⟨-, result, -, rfl, rfl⟩ := houtcome
    exact .httpShutdownReturn deadline result

theorem change_of_performService {op : Operations.Op} {response : op.Res}
    (hperform : performService process.auth op state choice =
      some (response, after)) :
    Change process state ⟨.service op, response⟩ after := by
  cases choice with
  | service choice =>
      simp only [performService] at hperform
      split at hperform
      · next hclosed =>
          simp only [Option.map_eq_some_iff, Prod.mk.injEq] at hperform
          obtain ⟨failed, hfailed, rfl, rfl⟩ := hperform
          rw [Bool.and_eq_true] at hclosed
          exact .refused hclosed.2 hfailed
      · simp only [Option.map_eq_some_iff, Prod.mk.injEq] at hperform
        obtain ⟨⟨response, store⟩, hstore, rfl, rfl⟩ := hperform
        exact .service hstore
  | _ => cases hperform

theorem change_of_perform
    (hperform : perform process op choice state = some (response, after)) :
    Change process state ⟨op, response⟩ after := by
  cases op with
  | httpServeReturn => exact change_of_serveOutcome hperform
  | httpShutdownReturn deadline => exact change_of_shutdownOutcome hperform
  | service op => exact change_of_performService hperform
  | goSend phone otp =>
      cases choice with
      | number number =>
          simp only [perform, Option.ite_none_left_eq_some, Option.some.injEq,
            Prod.mk.injEq, List.contains_iff_mem] at hperform
          obtain ⟨hfresh, rfl, rfl⟩ := hperform
          exact .goSend number phone otp hfresh
      | _ => cases hperform
  | sendOTP phone otp =>
      cases choice with
      | service choice =>
          simp only [perform, Option.map_eq_some_iff,
            Prod.mk.injEq] at hperform
          obtain ⟨⟨response, store⟩, hstore, rfl, rfl⟩ := hperform
          exact .sendOTP hstore
      | _ => cases hperform
  | traceExporter | metricExporter | loadAWSConfig | generateKey
  | registerGateway | listen | wait | grpcServeReturn | metricsShutdown
  | tracerShutdown =>
      obtain rfl := eq_of_map hperform
      exact .kept rfl
  | newRedisClient | sleep | withTimeout | loadShuttingDown =>
      cases hperform
      exact .kept rfl
  | spawn token =>
      cases hperform
      exact .spawn token
  | leave token result =>
      cases hperform
      exact .leave token result
  | httpServe =>
      cases hperform
      exact .httpServe
  | grpcServe =>
      cases hperform
      exact .grpcServe
  | storeShuttingDown =>
      cases hperform
      exact .storeShuttingDown
  | gracefulStop =>
      cases hperform
      exact .gracefulStop
  | httpShutdown =>
      cases hperform
      exact .httpShutdown
  | close number =>
      cases hperform
      exact .close number
  | ctxDone | sleepReturn =>
      simp only [perform, Option.ite_none_right_eq_some] at hperform
      cases hperform.2
      exact .kept rfl
  | gracefulStopReturn =>
      simp only [perform, Option.ite_none_right_eq_some] at hperform
      cases hperform.2
      exact .gracefulStopReturn
  | bgWait =>
      simp only [perform, Option.ite_none_left_eq_some] at hperform
      cases hperform.2
      exact .kept rfl
  | enter token =>
      simp only [perform, Option.ite_none_right_eq_some] at hperform
      cases hperform.2
      exact .enter token
  | redisClose =>
      simp only [perform, Option.map_eq_some_iff, Prod.mk.injEq] at hperform
      obtain ⟨result, -, rfl, rfl⟩ := hperform
      exact .redisClose result
  | readRequest number =>
      simp only [perform, List.contains_iff_mem] at hperform
      split at hperform
      · next hlive =>
          cases hperform
          exact .readFirst hlive
      · split at hperform
        · next hidle =>
            cases hperform
            exact .readRequest number hidle
        · cases hperform
          exact .kept rfl
  | writeResponse number written =>
      simp only [perform] at hperform
      split at hperform
      · cases hperform
        exact .writeLast number written
      · cases hperform
        exact .writeResponse number written

theorem without_of_any {counts : Token → Bool}
    (hnone : ¬state.live.any counts = true) : state.without counts := by
  intro token htoken
  rw [Bool.eq_false_iff]
  intro hcounts
  exact hnone (List.any_eq_true.mpr ⟨token, htoken, hcounts⟩)

theorem eq_some_of_map {Answer : Type} {found : Option Answer}
    {answer : Answer}
    (hmap : (found.map fun value => (value, state)) = some (answer, after)) :
    found = some answer := by
  simp only [Option.map_eq_some_iff, Prod.mk.injEq] at hmap
  obtain ⟨value, hfound, rfl, -⟩ := hmap
  exact hfound

theorem answers_of_perform
    (hperform : perform process op choice state = some (response, after)) :
    Answers process state ⟨op, response⟩ := by
  cases op with
  | enter token =>
      simp only [perform, Option.ite_none_right_eq_some, Bool.and_eq_true,
        Bool.not_eq_true', List.contains_eq_mem,
        decide_eq_false_iff_not] at hperform
      exact hperform.1
  | wait => exact process.libraries.groupWait_ended (eq_some_of_map hperform)
  | httpServeReturn =>
      cases choice with
      | ok =>
          simp only [perform, serveOutcome,
            Option.ite_none_right_eq_some] at hperform
          cases hperform.2
          exact iff_of_true rfl hperform.1
      | fault text =>
          simp only [perform, serveOutcome,
            Option.ite_none_left_eq_some] at hperform
          cases hperform.2
          exact iff_of_false ServeError.noConfusion hperform.1
      | _ => cases hperform
  | grpcServeReturn =>
      intro hok
      subst hok
      exact process.libraries.grpcServe_stopped (eq_some_of_map hperform)
  | ctxDone =>
      simp only [perform, Option.ite_none_right_eq_some] at hperform
      exact process.libraries.groupDone_cancelled hperform.1
  | sleep duration =>
      cases hperform
      rfl
  | sleepReturn wake =>
      simp only [perform, Option.ite_none_right_eq_some] at hperform
      exact hperform.1
  | gracefulStopReturn =>
      simp only [perform, Option.ite_none_right_eq_some] at hperform
      exact process.libraries.gracefulStop_waited hperform.1
  | withTimeout timeout =>
      cases hperform
      rfl
  | httpShutdownReturn deadline =>
      cases response with
      | error err => trivial
      | ok value =>
          by_cases htimeout : choice = .timeout
          · subst htimeout
            simp [perform, shutdownOutcome] at hperform
          · rw [perform, shutdownOutcome.eq_2 _ _ _ htimeout,
              Option.ite_none_left_eq_some] at hperform
            exact without_of_any hperform.1
  | bgWait =>
      simp only [perform, Option.ite_none_left_eq_some] at hperform
      exact without_of_any hperform.1
  | loadShuttingDown =>
      cases hperform
      rfl
  | writeResponse number written =>
      simp only [perform] at hperform
      split at hperform
      · next hclosing =>
          cases hperform
          simp [Answers, hclosing]
      · next hopen =>
          cases hperform
          simpa [Answers] using hopen
  | _ => trivial

end Changes

section Roles

def enteredToken : Entry → Option Token
  | ⟨.enter token, _⟩ => some token
  | _ => none

/-- The goroutine that a history belongs to: the one it entered as. -/
def enteredAs (history : History) : Option Token :=
  history.getLast?.bind enteredToken

/-- Whether the goroutine with this history is counted as under way. -/
def holds : History → Bool
  | [] => false
  | ⟨.enter _, _⟩ :: _ => true
  | ⟨.leave _ _, _⟩ :: _ => false
  | ⟨.readRequest _, opened⟩ :: _ => opened
  | ⟨.writeResponse _ _, _⟩ :: _ => false
  | ⟨.close _, _⟩ :: _ => false
  | _ :: older => holds older

/-- A goroutine that serves a client. -/
def Task.serves : Task → Bool
  | .connection _ _ => true
  | .rpc _ _ _ => true
  | _ => false

/-- The startup steps that can fail have not. -/
def succeeded : Entry → Prop
  | ⟨.traceExporter _, result⟩ => result = .ok ()
  | ⟨.metricExporter _, result⟩ => result = .ok ()
  | ⟨.loadAWSConfig, result⟩ => result = .ok ()
  | ⟨.generateKey, result⟩ => result = .ok ()
  | ⟨.registerGateway, result⟩ => result = .ok ()
  | ⟨.listen _, result⟩ => result = .ok ()
  | _ => True

/-- The startup has succeeded. -/
structure StartedUp (process : Process) (history : History) : Prop where
  configured : ∃ cfg, load process.koanf process.environ = .ok cfg ∧
    (process.params.hasSetup = true → isLocal cfg = true)
  steps : ∀ entry ∈ history, succeeded entry

/-- The steps of the shutdown, with the instants that they compute left out. -/
inductive Step where
  | enter
  | ctxDone
  | storeShuttingDown
  | sleep (duration : Duration)
  | sleepReturn
  | gracefulStop
  | gracefulStopReturn
  | withTimeout (timeout : Duration)
  | httpShutdown
  | httpShutdownReturn
  | bgWait
  | redisClose
  | metricsShutdown
  | tracerShutdown
  | leave
  | other
  deriving DecidableEq, Repr

def Op.step : Op → Step
  | .enter _ => .enter
  | .ctxDone => .ctxDone
  | .storeShuttingDown => .storeShuttingDown
  | .sleep duration => .sleep duration
  | .sleepReturn _ => .sleepReturn
  | .gracefulStop => .gracefulStop
  | .gracefulStopReturn => .gracefulStopReturn
  | .withTimeout timeout => .withTimeout timeout
  | .httpShutdown => .httpShutdown
  | .httpShutdownReturn _ => .httpShutdownReturn
  | .bgWait => .bgWait
  | .redisClose => .redisClose
  | .metricsShutdown _ => .metricsShutdown
  | .tracerShutdown _ => .tracerShutdown
  | .leave _ _ => .leave
  | _ => .other

def Params.grpcSteps (p : Params) : List Step :=
  if p.hasGRPC then [.gracefulStop, .gracefulStopReturn] else []

def Params.cleanupSteps (p : Params) : List Step :=
  if p.hasSetup then [.bgWait, .redisClose] else []

/-- The shutdown from the signal to the end. -/
def Params.script (p : Params) : List Step :=
  .enter :: .ctxDone :: .storeShuttingDown :: .sleep shutdownDrainDelay ::
    .sleepReturn :: (p.grpcSteps ++
      .withTimeout shutdownHTTPTimeout :: .httpShutdown ::
        .httpShutdownReturn :: (p.cleanupSteps ++
          [.withTimeout shutdownOTELTimeout, .metricsShutdown,
            .tracerShutdown, .leave]))

/-- The steps of a history, oldest first. -/
def stepsOf (history : History) : List Step :=
  (history.map fun entry => entry.1.step).reverse

/-- The operations that only the shutdown performs. -/
def Op.ofShutdown : Op → Bool
  | .ctxDone => true
  | .storeShuttingDown => true
  | .sleep _ => true
  | .sleepReturn _ => true
  | .gracefulStop => true
  | .gracefulStopReturn => true
  | .withTimeout _ => true
  | .httpShutdown => true
  | .httpShutdownReturn _ => true
  | .bgWait => true
  | .redisClose => true
  | .metricsShutdown _ => true
  | .tracerShutdown _ => true
  | _ => false

/-- Who performs an operation, after what. -/
def Role (process : Process) (task : Task) (history : History) : Op → Prop
  | .enter token => history = [] ∧ token = task.token
  | .spawn token =>
      task = .run ∧ token ∈ process.params.goroutines ∧
        StartedUp process history ∧ (⟨.spawn token, ()⟩ : Entry) ∉ history
  | .wait =>
      task = .run ∧ ∀ token ∈ process.params.goroutines,
        (⟨.spawn token, ()⟩ : Entry) ∈ history
  | .leave token _ =>
      token = task.token ∧ task ≠ .run ∧ holds history = true ∧
        ∀ number phone otp, token = .send number phone otp →
          ∃ result, (⟨.sendOTP phone otp, result⟩ : Entry) ∈ history
  | .httpServe => task = .serveHTTP ∧ holds history = true
  | .httpServeReturn => task = .serveHTTP ∧ holds history = true
  | .grpcServe => task = .serveGRPC ∧ holds history = true
  | .grpcServeReturn => task = .serveGRPC ∧ holds history = true
  | .readRequest number => task.token = .connection number
  | .writeResponse number written =>
      task.token = .connection number ∧ holds history = true ∧
        ∀ body, written = .health 200 body →
          history.head? = some ⟨.loadShuttingDown, false⟩
  | .close number => task.token = .connection number
  | .loadShuttingDown => task.serves = true ∧ holds history = true
  | .service _ => task.serves = true ∧ holds history = true
  | .goSend _ _ => task.serves = true ∧ holds history = true
  | .sendOTP phone otp =>
      (∃ number, task = .send number phone otp) ∧ holds history = true
  | op => (op.ofShutdown = true → task = .shutdown) ∧
      (op.ofShutdown = false → task = .run)

/-- The shutdown follows its script, and sleeps as long as it said. -/
structure Scripted (p : Params) (history : History) (op : Op) : Prop where
  ordered : stepsOf history ++ [op.step] <+: p.script
  slept : ∀ wake, op = .sleepReturn wake →
    (⟨.sleep shutdownDrainDelay, wake⟩ : Entry) ∈ history

/-- What a goroutine may do next. -/
structure Guarded (process : Process) (task : Task) (history : History)
    (op : Op) : Prop where
  entered : (∃ token, op = .enter token) ∨ enteredAs history = some task.token
  role : Role process task history op
  scripted : task = .shutdown → Scripted process.params history op

/-- What holds when a goroutine ends. -/
def Ended (task : Task) (history : History) (exit : Exit) : Prop :=
  enteredAs history = some task.token ∧
    match task with
    | .run => ∃ err, exit = .returned err ∧
        ((⟨.wait, err⟩ : Entry) ∈ history ∨
          err.isSome = true ∧ ∀ token,
            (⟨.spawn token, ()⟩ : Entry) ∉ history)
    | _ => holds history = false

theorem enteredAs_cons {entry : Entry} {history : History} {token : Token}
    (hentered : enteredAs history = some token) :
    enteredAs (entry :: history) = some token := by
  cases history with
  | nil => cases hentered
  | cons older rest =>
      rw [enteredAs, List.getLast?_cons_cons]
      exact hentered

end Roles

section Shutdown

variable {process : Process} {history : History} {rest : List Step}

/-- The shutdown with a part of its script still to do. -/
structure Along (process : Process) (rest : List Step) (history : History) :
    Prop where
  split : stepsOf history ++ rest = process.params.script
  entered : enteredAs history = some .shutdown
  holding : holds history = true

theorem stepsOf_cons (entry : Entry) (history : History) :
    stepsOf (entry :: history) = stepsOf history ++ [entry.1.step] := by
  simp [stepsOf]

theorem holds_ofShutdown {op : Op} (hop : op.ofShutdown = true)
    (response : op.Res) :
    holds (⟨op, response⟩ :: history) = holds history := by
  cases op with
  | enter | leave | readRequest | writeResponse | close => cases hop
  | _ => rfl

theorem role_ofShutdown {op : Op} (hop : op.ofShutdown = true) :
    Role process .shutdown history op := by
  have hrole : (op.ofShutdown = true → Task.shutdown = .shutdown) ∧
      (op.ofShutdown = false → Task.shutdown = .run) :=
    ⟨fun _ => rfl, fun hother => by rw [hop] at hother; cases hother⟩
  cases op with
  | enter | spawn | wait | leave | httpServe | httpServeReturn | grpcServe
  | grpcServeReturn | readRequest | writeResponse | close | loadShuttingDown
  | service | goSend | sendOTP => cases hop
  | _ => exact hrole

theorem Along.ordered {op : Op}
    (halong : Along process (op.step :: rest) history) :
    stepsOf history ++ [op.step] <+: process.params.script := by
  refine ⟨rest, ?_⟩
  rw [← List.append_cons]
  exact halong.split

/-- One step along the script. -/
theorem sat_along {A : Type} {post : History → A → Prop} {op : Op}
    {next : op.Res → Prog Op Op.Res A}
    (halong : Along process (op.step :: rest) history)
    (hop : op.ofShutdown = true)
    (hslept : ∀ wake, op = .sleepReturn wake →
      (⟨.sleep shutdownDrainDelay, wake⟩ : Entry) ∈ history)
    (hnext : ∀ response, Along process rest (⟨op, response⟩ :: history) →
      Sat (Guarded process .shutdown) post (next response)
        (⟨op, response⟩ :: history)) :
    Sat (Guarded process .shutdown) post (ask op >>= next) history := by
  refine ⟨⟨Or.inr halong.entered, role_ofShutdown hop,
    fun _ => ⟨halong.ordered, hslept⟩⟩, fun response => hnext response ?_⟩
  refine ⟨?_, enteredAs_cons halong.entered, ?_⟩
  · rw [stepsOf_cons, ← List.append_cons]
    exact halong.split
  · rw [holds_ofShutdown hop]
    exact halong.holding

/-- Two steps that the shutdown takes together or not at all. -/
theorem sat_both {enabled : Bool} (first last : Op)
    (halong : Along process
      ((if enabled then [first.step, last.step] else []) ++ rest) history)
    (hfirst : first.ofShutdown = true) (hlast : last.ofShutdown = true)
    (hawake : ∀ wake, first ≠ .sleepReturn wake ∧ last ≠ .sleepReturn wake) :
    Sat (Guarded process .shutdown)
      (fun reached _ => Along process rest reached)
      (if enabled then do
        let _ ← ask first
        let _ ← ask last
        pure ()
      else pure ()) history := by
  cases enabled with
  | true =>
      refine sat_along halong hfirst
        (fun wake heq => absurd heq (hawake wake).1) fun _ halong => ?_
      exact sat_along halong hlast
        (fun wake heq => absurd heq (hawake wake).2) fun _ halong => halong
  | false => exact halong

theorem sat_stopGRPC
    (halong : Along process (process.params.grpcSteps ++ rest) history) :
    Sat (Guarded process .shutdown)
      (fun reached _ => Along process rest reached)
      (stopGRPC process.params) history := by
  exact sat_both .gracefulStop .gracefulStopReturn halong rfl rfl
    fun wake => by simp

theorem sat_cleanup
    (halong : Along process (process.params.cleanupSteps ++ rest) history) :
    Sat (Guarded process .shutdown)
      (fun reached _ => Along process rest reached)
      (cleanup process.params) history := by
  exact sat_both .bgWait .redisClose halong rfl rfl fun wake => by simp

theorem sat_shutdownFunc :
    Sat (Guarded process .shutdown) (Ended .shutdown)
      (shutdownFunc process.params) [] := by
  have hfirst : [Step.enter] <+: process.params.script :=
    ⟨process.params.script.tail, rfl⟩
  refine ⟨⟨Or.inl ⟨_, rfl⟩, ⟨rfl, rfl⟩, fun _ => ⟨hfirst, nofun⟩⟩, fun _ => ?_⟩
  have halong : Along process process.params.script.tail
      [⟨.enter .shutdown, ()⟩] := ⟨rfl, rfl, rfl⟩
  refine sat_along halong rfl nofun fun _ halong => ?_
  refine sat_along halong rfl nofun fun _ halong => ?_
  refine sat_along halong rfl nofun fun wake halong => ?_
  refine sat_along halong rfl ?_ fun _ halong => ?_
  · rintro other heq
    cases heq
    exact List.mem_cons_self
  rw [sat_bind]
  refine (sat_stopGRPC halong).mono fun stopped _ halong => ?_
  refine sat_along halong rfl nofun fun _ halong => ?_
  refine sat_along halong rfl nofun fun _ halong => ?_
  refine sat_along halong rfl nofun fun _ halong => ?_
  rw [sat_bind]
  refine (sat_cleanup halong).mono fun cleaned _ halong => ?_
  refine sat_along halong rfl nofun fun _ halong => ?_
  refine sat_along halong rfl nofun fun _ halong => ?_
  refine sat_along halong rfl nofun fun _ halong => ?_
  refine ⟨⟨Or.inr halong.entered, ⟨rfl, nofun, halong.holding, nofun⟩,
    fun _ => ⟨halong.ordered, nofun⟩⟩, fun _ => ?_⟩
  exact ⟨enteredAs_cons halong.entered, rfl⟩

end Shutdown

section Serving

variable {process : Process} {task : Task} {history : History}

/-- A goroutine that serves a client and has not finished. -/
structure Serving (task : Task) (history : History) : Prop where
  entered : enteredAs history = some task.token
  serves : task.serves = true
  holding : holds history = true

/-- The requests that a handler makes, seen from the goroutine. -/
def Op.ofHandler : Op → Bool
  | .service _ => true
  | .goSend _ _ => true
  | .loadShuttingDown => true
  | _ => false

theorem Serving.guarded {op : Op} (hserving : Serving task history)
    (hop : op.ofHandler = true) : Guarded process task history op := by
  refine ⟨Or.inr hserving.entered, ?_, ?_⟩
  · cases op <;>
      first
      | exact ⟨hserving.serves, hserving.holding⟩
      | cases hop
  · intro htask
    have hserves := hserving.serves
    rw [htask] at hserves
    cases hserves

theorem Serving.cons {op : Op} (hserving : Serving task history)
    (hop : op.ofHandler = true) (response : op.Res) :
    Serving task (⟨op, response⟩ :: history) := by
  refine ⟨enteredAs_cons hserving.entered, hserving.serves, ?_⟩
  cases op <;>
    first
    | exact hserving.holding
    | cases hop

theorem sat_detached {A : Type}
    (program : Prog Operations.Op Operations.Op.Res A)
    (hserving : Serving task history) :
    Sat (Guarded process task) (fun reached _ => Serving task reached)
      (detached program) history := by
  induction program generalizing history with
  | pure value => exact hserving
  | call op next ih =>
      cases op with
      | sendOTP phone otp =>
          exact ⟨hserving.guarded rfl,
            fun response => ih (.ok ()) (hserving.cons rfl response)⟩
      | _ =>
          exact ⟨hserving.guarded rfl,
            fun response => ih response (hserving.cons rfl response)⟩

/-- The server says that it is healthy right after it has looked. -/
theorem sat_serveRoute (route : Route) (hserving : Serving task history) :
    Sat (Guarded process task) (fun reached response =>
      Serving task reached ∧ ∀ body, response = .health 200 body →
        reached.head? = some ⟨.loadShuttingDown, false⟩)
      (serveRoute process route) history := by
  cases route with
  | healthz =>
      refine ⟨hserving.guarded rfl, fun shuttingDown => ?_⟩
      cases shuttingDown with
      | true => exact ⟨hserving.cons rfl _, nofun⟩
      | false => exact ⟨hserving.cons rfl _, fun _ _ => rfl⟩
  | openapi =>
      rw [serveRoute]
      split <;> exact ⟨hserving, nofun⟩
  | gateway ctx rpc =>
      rw [serveRoute]
      split
      · rw [sat_bind]
        exact (sat_detached _ hserving).mono fun _ _ hserving =>
          ⟨hserving, nofun⟩
      · exact ⟨hserving, nofun⟩
  | other => exact ⟨hserving, nofun⟩

theorem sat_serveRequests {number : ℕ} {all : List Route}
    (routes : List Route)
    (hentered : enteredAs history = some (.connection number)) :
    Sat (Guarded process (.connection number all))
      (Ended (.connection number all))
      (serveRequests process number routes) history := by
  induction routes generalizing history with
  | nil =>
      refine ⟨⟨Or.inr hentered, rfl, nofun⟩, fun _ => ?_⟩
      exact ⟨enteredAs_cons hentered, rfl⟩
  | cons route rest ih =>
      refine ⟨⟨Or.inr hentered, rfl, nofun⟩, fun opened => ?_⟩
      cases opened with
      | false => exact ⟨enteredAs_cons hentered, rfl⟩
      | true =>
          have hserving : Serving (.connection number all)
              (⟨.readRequest number, true⟩ :: history) :=
            ⟨enteredAs_cons hentered, rfl, rfl⟩
          change Sat _ _ (serveRoute process route >>= _) _
          rw [sat_bind]
          refine (sat_serveRoute route hserving).mono
            fun reached response ⟨hserving, hhealthy⟩ => ?_
          refine ⟨⟨Or.inr hserving.entered, ⟨rfl, hserving.holding, hhealthy⟩,
            nofun⟩, fun keepAlive => ?_⟩
          cases keepAlive with
          | false => exact ⟨enteredAs_cons hserving.entered, rfl⟩
          | true => exact ih (enteredAs_cons hserving.entered)

theorem sat_connection (number : ℕ) (routes : List Route) :
    Sat (Guarded process (.connection number routes))
      (Ended (.connection number routes))
      (connection process number routes) [] :=
  ⟨⟨Or.inl ⟨_, rfl⟩, ⟨rfl, rfl⟩, nofun⟩,
    fun _ => sat_serveRequests routes rfl⟩

theorem sat_serveRPC (number : ℕ) (ctx : Context) (rpc : RPC) :
    Sat (Guarded process (.rpc number ctx rpc)) (Ended (.rpc number ctx rpc))
      (serveRPC process number ctx rpc) [] := by
  refine ⟨⟨Or.inl ⟨_, rfl⟩, ⟨rfl, rfl⟩, nofun⟩, fun _ => ?_⟩
  have hserving : Serving (.rpc number ctx rpc)
      [⟨.enter (.rpc number), ()⟩] := ⟨rfl, rfl, rfl⟩
  have hleave : ∀ {reached} {exit : Exit},
      Serving (.rpc number ctx rpc) reached →
      Sat (Guarded process (.rpc number ctx rpc))
        (Ended (.rpc number ctx rpc))
        (ask (.leave (.rpc number) none) >>= fun _ => pure exit) reached := by
    intro reached exit hserving
    refine ⟨⟨Or.inr hserving.entered, ⟨rfl, nofun, hserving.holding, nofun⟩,
      nofun⟩, fun _ => ?_⟩
    exact ⟨enteredAs_cons hserving.entered, rfl⟩
  change Sat _ _ (if process.params.hasSetup then _ else _) _
  split
  · rw [sat_bind]
    exact (sat_detached _ hserving).mono fun reached _ hserving =>
      hleave hserving
  · exact hleave hserving

end Serving

section Others

variable {process : Process}

theorem sat_serveHTTP :
    Sat (Guarded process .serveHTTP) (Ended .serveHTTP) serveHTTP [] := by
  refine ⟨⟨Or.inl ⟨_, rfl⟩, ⟨rfl, rfl⟩, nofun⟩, fun _ => ?_⟩
  refine ⟨⟨Or.inr rfl, ⟨rfl, rfl⟩, nofun⟩, fun _ => ?_⟩
  refine ⟨⟨Or.inr rfl, ⟨rfl, rfl⟩, nofun⟩, fun _ => ?_⟩
  exact ⟨⟨Or.inr rfl, ⟨rfl, nofun, rfl, nofun⟩, nofun⟩, fun _ => ⟨rfl, rfl⟩⟩

theorem sat_serveGRPC :
    Sat (Guarded process .serveGRPC) (Ended .serveGRPC) serveGRPC [] := by
  refine ⟨⟨Or.inl ⟨_, rfl⟩, ⟨rfl, rfl⟩, nofun⟩, fun _ => ?_⟩
  refine ⟨⟨Or.inr rfl, ⟨rfl, rfl⟩, nofun⟩, fun _ => ?_⟩
  refine ⟨⟨Or.inr rfl, ⟨rfl, rfl⟩, nofun⟩, fun _ => ?_⟩
  exact ⟨⟨Or.inr rfl, ⟨rfl, nofun, rfl, nofun⟩, nofun⟩, fun _ => ⟨rfl, rfl⟩⟩

theorem sat_sendInBackground (number : ℕ) (phone otp : String) :
    Sat (Guarded process (.send number phone otp))
      (Ended (.send number phone otp))
      (sendInBackground number phone otp) [] := by
  refine ⟨⟨Or.inl ⟨_, rfl⟩, ⟨rfl, rfl⟩, nofun⟩, fun _ => ?_⟩
  refine ⟨⟨Or.inr rfl, ⟨⟨number, rfl⟩, rfl⟩, nofun⟩, fun result => ?_⟩
  refine ⟨⟨Or.inr rfl, ⟨rfl, nofun, rfl, ?_⟩, nofun⟩, fun _ => ⟨rfl, rfl⟩⟩
  rintro other phone otp heq
  cases heq
  exact ⟨result, List.mem_cons_self⟩

end Others

section Startup

variable {process : Process} {history : History}

/-- `Run` before it has started a goroutine. -/
structure Preparing (history : History) : Prop where
  entered : enteredAs history = some .run
  unspawned : ∀ token, (⟨.spawn token, ()⟩ : Entry) ∉ history

/-- Startup steps that fail or establish a fact, from a startup that has gone
well so far. -/
def Prepares (process : Process) (fact : Prop) (steps : Startup) : Prop :=
  ∀ history, Preparing history → (∀ entry ∈ history, succeeded entry) →
    Sat (Guarded process .run) (fun reached outcome => Preparing reached ∧
      (outcome = .ok () → (∀ entry ∈ reached, succeeded entry) ∧ fact))
      steps.run history

/-- The steps of the startup. -/
def Op.ofStartup : Op → Bool
  | .traceExporter _ => true
  | .metricExporter _ => true
  | .loadAWSConfig => true
  | .newRedisClient => true
  | .generateKey => true
  | .registerGateway => true
  | .listen _ => true
  | _ => false

theorem prepares_pure : Prepares process True (pure ()) :=
  fun _ hpreparing hclean => ⟨hpreparing, fun _ => ⟨hclean, trivial⟩⟩

theorem prepares_throw (err : GoError) : Prepares process False (throw err) :=
  fun _ hpreparing _ => ⟨hpreparing, nofun⟩

theorem prepares_trying {op : Op} {answer : op.Res → Except GoError Unit}
    (hop : op.ofStartup = true)
    (hanswer : ∀ response, answer response = .ok () →
      succeeded ⟨op, response⟩) :
    Prepares process True (trying op answer) := by
  intro history hpreparing hclean
  have hrole : Role process .run history op := by
    cases op with
    | traceExporter | metricExporter | loadAWSConfig | newRedisClient
    | generateKey | registerGateway | listen => exact ⟨nofun, fun _ => rfl⟩
    | _ => cases hop
  refine ⟨⟨Or.inr hpreparing.entered, hrole, nofun⟩, fun response => ?_⟩
  refine ⟨⟨enteredAs_cons hpreparing.entered, ?_⟩, fun hok => ⟨?_, trivial⟩⟩
  · intro token hmem
    rcases List.mem_cons.mp hmem with heq | hold
    · cases heq
      cases hop
    · exact hpreparing.unspawned token hold
  · exact List.forall_mem_cons.mpr ⟨hanswer response hok, hclean⟩

theorem Prepares.wrapping {fact : Prop} {steps : Startup}
    (hsteps : Prepares process fact steps) (text : String) :
    Prepares process fact (wrapping text steps) := by
  intro history hpreparing hclean
  unfold Lifecycle.wrapping
  change Sat _ _ (steps.run >>= _) history
  rw [sat_bind]
  refine (hsteps history hpreparing hclean).mono
    fun reached outcome hreached => ?_
  cases outcome with
  | error err => exact ⟨hreached.1, nofun⟩
  | ok value => exact hreached

theorem Prepares.bind {fact other : Prop} {steps more : Startup}
    (hsteps : Prepares process fact steps)
    (hmore : Prepares process other more) :
    Prepares process (fact ∧ other) (steps >>= fun _ => more) := by
  intro history hpreparing hclean
  rw [sat_run_bind]
  refine (hsteps history hpreparing hclean).mono
    fun reached outcome hreached => ?_
  cases outcome with
  | error err => exact ⟨hreached.1, nofun⟩
  | ok value =>
      obtain ⟨hclean, hfact⟩ := hreached.2 rfl
      refine (hmore reached hreached.1 hclean).mono fun last ended hended => ?_
      refine ⟨hended.1, fun hok => ?_⟩
      obtain ⟨hclean, hother⟩ := hended.2 hok
      exact ⟨hclean, hfact, hother⟩

theorem Prepares.weaken {fact other : Prop} {steps : Startup}
    (hsteps : Prepares process fact steps) (himplies : fact → other) :
    Prepares process other steps := by
  intro history hpreparing hclean
  refine (hsteps history hpreparing hclean).mono
    fun reached outcome hreached => ?_
  refine ⟨hreached.1, fun hok => ?_⟩
  obtain ⟨hclean, hfact⟩ := hreached.2 hok
  exact ⟨hclean, himplies hfact⟩

theorem Prepares.then {steps more : Startup} {fact : Prop}
    (hsteps : Prepares process True steps)
    (hmore : Prepares process fact more) :
    Prepares process fact (steps >>= fun _ => more) :=
  (hsteps.bind hmore).weaken And.right

theorem prepares_initTracer (cfg : Config) :
    Prepares process True (initTracer cfg) := by
  unfold initTracer
  split
  · refine Prepares.wrapping ?_ _
    exact prepares_trying rfl fun _ hok => hok
  · exact prepares_pure

theorem prepares_initMetrics (cfg : Config) :
    Prepares process True (initMetrics cfg) := by
  unfold initMetrics
  split
  · refine Prepares.wrapping ?_ _
    exact prepares_trying rfl fun _ hok => hok
  · exact prepares_pure

theorem prepares_initOTEL (cfg : Config) :
    Prepares process True (initOTEL cfg) :=
  ((prepares_initTracer cfg).wrapping _).then
    ((prepares_initMetrics cfg).wrapping _)

theorem prepares_createKeyStore (cfg : Config) :
    Prepares process (isLocal cfg = true) (createKeyStore cfg) := by
  unfold createKeyStore
  split
  · next hlocal =>
      have hgenerate : Prepares process True (trying .generateKey id) :=
        prepares_trying rfl fun _ hok => hok
      exact (hgenerate.wrapping _).weaken fun _ => hlocal
  · exact (prepares_throw _).weaken False.elim

theorem prepares_runSetup (cfg : Config) (callback : Option Setup) :
    Prepares process (callback.isSome = true → isLocal cfg = true)
      (runSetup cfg callback) := by
  rcases callback with _ | ⟨⟩
  · exact prepares_pure.weaken fun _ => nofun
  · have hdynamo : Prepares process True (trying .loadAWSConfig id) :=
      prepares_trying rfl fun _ hok => hok
    have hredis : Prepares process True
        (trying .newRedisClient fun _ => .ok ()) :=
      prepares_trying rfl fun _ _ => trivial
    have hgateway : Prepares process True (trying .registerGateway id) :=
      prepares_trying rfl fun _ hok => hok
    have hkeys : Prepares process (isLocal cfg = true)
        (wrapping "chatmgmt setup: create key store: %w"
          (createKeyStore cfg)) := (prepares_createKeyStore cfg).wrapping _
    have hsetup : Prepares process (isLocal cfg = true ∧ True)
        (setup cfg .chatmgmt) :=
      ((hdynamo.wrapping _).wrapping _).then
        (hredis.then (hkeys.bind (hgateway.wrapping _)))
    exact (hsetup.wrapping _).weaken fun hfacts _ => hfacts.1

theorem prepares_resolveListener (injected : Bool) (portFn : Config → ℤ)
    (cfg : Config) (protocol : String) :
    Prepares process True (resolveListener injected portFn cfg protocol) := by
  unfold resolveListener
  split
  · exact prepares_pure
  · refine prepares_trying rfl fun opened hok => ?_
    cases opened with
    | error err => cases hok
    | ok value => rfl

theorem prepares_resolveGRPCListener (injected : Bool) (p : Params)
    (cfg : Config) :
    Prepares process True (resolveGRPCListener injected p cfg) := by
  unfold resolveGRPCListener
  split
  · exact prepares_pure
  · exact prepares_resolveListener _ _ _ _

theorem prepares_startup :
    Prepares process (∃ cfg, load process.koanf process.environ = .ok cfg ∧
      (process.params.hasSetup = true → isLocal cfg = true))
      (startup process) := by
  unfold startup
  cases hload : load process.koanf process.environ with
  | error err => exact (prepares_throw _).weaken False.elim
  | ok cfg =>
      have hlisteners : Prepares process True (do
          resolveListener process.listeners.http process.params.portFromConfig
            cfg "http"
          resolveGRPCListener process.listeners.grpc process.params cfg) :=
        (prepares_resolveListener _ _ _ _).then
          (prepares_resolveGRPCListener _ _ _)
      have hall := (prepares_initOTEL cfg).then
        ((prepares_runSetup cfg process.params.setup).bind hlisteners)
      exact hall.weaken fun hfacts => ⟨cfg, rfl, hfacts.1⟩

/-- All functions are given to the group, each once, before `Run` waits. -/
theorem sat_spawnAll {tokens : List Token}
    (hgoroutines : ∀ token ∈ tokens, token ∈ process.params.goroutines)
    (hnodup : tokens.Nodup)
    (hfresh : ∀ token ∈ tokens, (⟨.spawn token, ()⟩ : Entry) ∉ history)
    (hentered : enteredAs history = some .run)
    (hstarted : StartedUp process history) :
    Sat (Guarded process .run) (fun reached _ =>
      enteredAs reached = some .run ∧ history <:+ reached ∧
        ∀ token ∈ tokens, (⟨.spawn token, ()⟩ : Entry) ∈ reached)
      (spawnAll tokens) history := by
  induction tokens generalizing history with
  | nil => exact ⟨hentered, List.suffix_refl history, nofun⟩
  | cons token rest ih =>
      obtain ⟨htoken, hrest⟩ := List.forall_mem_cons.mp hgoroutines
      obtain ⟨hunspawned, hunspawnedRest⟩ := List.forall_mem_cons.mp hfresh
      obtain ⟨hnot, hnodup⟩ := List.nodup_cons.mp hnodup
      refine ⟨⟨Or.inr hentered, ⟨rfl, htoken, hstarted, hunspawned⟩, nofun⟩,
        fun _ => ?_⟩
      have hspawned : StartedUp process (⟨.spawn token, ()⟩ :: history) :=
        ⟨hstarted.configured,
          List.forall_mem_cons.mpr ⟨trivial, hstarted.steps⟩⟩
      have hstillFresh : ∀ other ∈ rest, (⟨.spawn other, ()⟩ : Entry) ∉
          ⟨.spawn token, ()⟩ :: history := by
        intro other hother hmem
        rcases List.mem_cons.mp hmem with heq | hold
        · cases heq
          exact hnot hother
        · exact hunspawnedRest other hother hold
      refine (ih hrest hnodup hstillFresh (enteredAs_cons hentered)
        hspawned).mono ?_
      rintro reached value ⟨hreached, hsuffix, hall⟩
      refine ⟨hreached, (List.suffix_cons _ history).trans hsuffix, ?_⟩
      exact List.forall_mem_cons.mpr
        ⟨hsuffix.subset List.mem_cons_self, hall⟩

theorem goroutines_nodup (p : Params) : p.goroutines.Nodup := by
  unfold Params.goroutines
  split <;> decide

theorem sat_run :
    Sat (Guarded process .run) (Ended .run) (run process) [] := by
  refine ⟨⟨Or.inl ⟨_, rfl⟩, ⟨rfl, rfl⟩, nofun⟩, fun _ => ?_⟩
  have hpreparing : Preparing [⟨.enter .run, ()⟩] :=
    ⟨rfl, fun token hmem => by
      rw [List.mem_singleton] at hmem
      cases hmem⟩
  have hclean : ∀ entry ∈ ([⟨.enter .run, ()⟩] : History), succeeded entry := by
    intro entry hentry
    rw [List.mem_singleton] at hentry
    subst hentry
    trivial
  change Sat _ _ ((startup process).run >>= _) _
  rw [sat_bind]
  refine (prepares_startup _ hpreparing hclean).mono
    fun reached outcome hreached => ?_
  cases outcome with
  | error err =>
      exact ⟨hreached.1.entered, some err, rfl, Or.inr
        ⟨rfl, hreached.1.unspawned⟩⟩
  | ok value =>
      obtain ⟨hsteps, hconfigured⟩ := hreached.2 rfl
      change Sat _ _ (spawnAll process.params.goroutines >>= _) _
      rw [sat_bind]
      refine (sat_spawnAll (fun _ htoken => htoken) (goroutines_nodup _)
        (fun token _ => hreached.1.unspawned token) hreached.1.entered
        ⟨hconfigured, hsteps⟩).mono ?_
      rintro waiting _ ⟨hentered, -, hspawned⟩
      refine ⟨⟨Or.inr hentered, ⟨rfl, hspawned⟩, nofun⟩, fun err => ?_⟩
      exact ⟨enteredAs_cons hentered, err, rfl, Or.inl List.mem_cons_self⟩

/-- Every goroutine keeps to its role, whatever the others do. -/
theorem sat_body (process : Process) (task : Task) :
    Sat (Guarded process task) (Ended task) ((server process).program task)
      [] := by
  cases task with
  | run => exact sat_run
  | serveHTTP => exact sat_serveHTTP
  | serveGRPC => exact sat_serveGRPC
  | shutdown => exact sat_shutdownFunc
  | connection number routes => exact sat_connection number routes
  | rpc number ctx rpc => exact sat_serveRPC number ctx rpc
  | send number phone otp => exact sat_sendInBackground number phone otp

end Startup

end MessagingPlatform.Lifecycle
