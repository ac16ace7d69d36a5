import MessagingPlatform.Config.Settings
import MessagingPlatform.Port.AuthHandler

/-!
# The life of a server process

`server.Run` with the composition root of the chat management service: the
startup, the two servers, the goroutine that shuts them down, the goroutines
of connections and calls, and the goroutines in which codes are sent.  Each
goroutine is a program; they interleave over the state that they share.

The state counts what the goroutines have told the libraries.  errgroup and
grpc-go are a parameter (`Libraries`): what is used of them are the promises
that stand there.  `net/http` is built in: `Server.Shutdown` stops accepting,
closes idle connections and waits for the others until its context is done.  A
call that blocks is an operation that is not enabled.

Logging, metrics and tracing show as far as they can fail or end the process.
-/

namespace MessagingPlatform.Lifecycle

open Program
open Interleaving
open Instants
open Errors
open Primitives
open Mappers
open ClientAddress
open Settings
open AuthHandler

section Parameters

def shutdownDrainDelay : Duration := 3 * second
def shutdownHTTPTimeout : Duration := 20 * second
def shutdownOTELTimeout : Duration := 5 * second

/-- The setup callbacks there are. -/
inductive Setup where
  | chatmgmt
  deriving DecidableEq, Repr

structure Params where
  name : String
  portFromConfig : Config → ℤ
  grpcPortFromConfig : Option (Config → ℤ)
  setup : Option Setup

def gateway : Params where
  name := "gateway"
  portFromConfig := fun cfg => cfg.gateway.httpPort
  grpcPortFromConfig := none
  setup := none

def ingest : Params where
  name := "ingest"
  portFromConfig := fun cfg => cfg.ingest.httpPort
  grpcPortFromConfig := none
  setup := none

def fanout : Params where
  name := "fanout"
  portFromConfig := fun cfg => cfg.fanout.httpPort
  grpcPortFromConfig := none
  setup := none

def chatmgmt : Params where
  name := "chatmgmt"
  portFromConfig := fun cfg => cfg.chatMgmt.httpPort
  grpcPortFromConfig := some fun cfg => cfg.chatMgmt.grpcPort
  setup := some .chatmgmt

/-- Whether listeners are injected. -/
structure Listeners where
  http : Bool
  grpc : Bool
  deriving DecidableEq, Repr

def Params.hasGRPC (p : Params) : Bool := p.grpcPortFromConfig.isSome
def Params.hasSetup (p : Params) : Bool := p.setup.isSome

end Parameters

section Sharing

/-- The names of goroutines.  A connection, a call and a sending goroutine is
told from the others of its kind by a number. -/
inductive Token where
  | run
  | serveHTTP
  | serveGRPC
  | shutdown
  | connection (number : ℕ)
  | rpc (number : ℕ)
  | send (number : ℕ) (phone otp : String)
  deriving DecidableEq, Repr

/-- Whether the error group of `Run` waits for the goroutine. -/
def Token.grouped : Token → Bool
  | .serveHTTP => true
  | .serveGRPC => true
  | .shutdown => true
  | _ => false

def Token.isConnection : Token → Bool
  | .connection _ => true
  | _ => false

def Token.isRPC : Token → Bool
  | .rpc _ => true
  | _ => false

def Token.isSend : Token → Bool
  | .send _ _ _ => true
  | _ => false

/-- What the goroutines share.  `begun` are the goroutines that have started
and `live` those that some wait group counts: from the spawning to the end for
functions of the error group and for sending goroutines, from the first to the
last byte for calls, while a request is served for connections. -/
structure State where
  store : Tables.Store
  signalled : Bool
  begun : List Token
  live : List Token
  groupErr : Option GoError
  shuttingDown : Bool
  httpServing : Bool
  inShutdown : Bool
  idle : List ℕ
  grpcServing : Bool
  quit : Bool
  stopped : Bool
  sends : List ℕ
  redisClosed : Bool

/-- The process before `main` has called `Run`. -/
def State.initial (store : Tables.Store) : State where
  store := store
  signalled := false
  begun := []
  live := []
  groupErr := none
  shuttingDown := false
  httpServing := false
  inShutdown := false
  idle := []
  grpcServing := false
  quit := false
  stopped := false
  sends := []
  redisClosed := false

inductive Choice where
  | ok
  | fault (text : String)
  | timeout
  | number (value : ℕ)
  | service (choice : Operations.Choice)

/-- Whether the context of the error group is done. -/
def State.cancelled (state : State) : Bool :=
  state.signalled || state.groupErr.isSome

/-- Nothing that the filter counts is under way. -/
def State.without (state : State) (counts : Token → Bool) : Prop :=
  ∀ token ∈ state.live, counts token = false

instance (state : State) (counts : Token → Bool) :
    Decidable (state.without counts) :=
  inferInstanceAs (Decidable (∀ _ ∈ state.live, _))

end Sharing

section Libraries

/-- errgroup and grpc-go: when their blocking calls return and with what, when
a call is served, and what they promise of it. -/
structure Libraries where
  groupWait : State → Choice → Option (Option GoError)
  groupDone : State → Choice → Bool
  accepts : State → Bool
  grpcServe : State → Choice → Option (Except GoError Unit)
  gracefulStop : State → Choice → Bool
  /-- `Wait` returns after the functions of the group, with the first error. -/
  groupWait_ended : ∀ {state choice err}, groupWait state choice = some err →
    state.without Token.grouped ∧ err = state.groupErr
  /-- The context of the group is done once its parent is, or once a function
  has failed. -/
  groupDone_cancelled : ∀ {state choice}, groupDone state choice = true →
    state.cancelled = true
  /-- Calls are served by a server that serves and has not stopped. -/
  accepts_serving : ∀ {state}, accepts state = true →
    state.grpcServing = true ∧ state.stopped = false
  /-- `Serve` returns without an error if the server was stopped. -/
  grpcServe_stopped : ∀ {state choice},
    grpcServe state choice = some (.ok ()) → state.stopped = true
  /-- `GracefulStop` returns after the pending calls. -/
  gracefulStop_waited : ∀ {state choice}, gracefulStop state choice = true →
    state.without Token.isRPC

/-- The result of `Serve` of the gRPC server.  A server that was stopped before
it served refuses to. -/
def grpcServeOutcome (state : State) : Choice → Option (Except GoError Unit)
  | .ok =>
      if state.grpcServing then
        if state.stopped then some (.ok ()) else none
      else some (.error (.plain "grpc: the server has been stopped"))
  | .fault text =>
      if state.grpcServing && !state.quit then some (.error (.plain text))
      else none
  | _ => none

theorem stopped_of_grpcServeOutcome {state : State} {choice : Choice}
    (houtcome : grpcServeOutcome state choice = some (.ok ())) :
    state.stopped = true := by
  cases choice with
  | ok =>
      simp only [grpcServeOutcome] at houtcome
      split at houtcome
      · split at houtcome
        · assumption
        · cases houtcome
      · cases houtcome
  | fault text =>
      simp only [grpcServeOutcome] at houtcome
      split at houtcome <;> cases houtcome
  | _ => cases houtcome

/-- The libraries when each call returns, and is served, as soon as their
promises let it. -/
def Libraries.prompt : Libraries where
  groupWait := fun state _ =>
    if state.without Token.grouped then some state.groupErr else none
  groupDone := fun state _ => state.cancelled
  accepts := fun state => state.grpcServing && !state.stopped
  grpcServe := grpcServeOutcome
  gracefulStop := fun state _ => decide (state.without Token.isRPC)
  groupWait_ended := by
    intro state choice err hwait
    rw [Option.ite_none_right_eq_some, Option.some.injEq] at hwait
    exact ⟨hwait.1, hwait.2.symm⟩
  groupDone_cancelled := id
  accepts_serving := by simp
  grpcServe_stopped := stopped_of_grpcServeOutcome
  gracefulStop_waited := of_decide_eq_true

/-- What a process is started with, and the libraries it is built on. -/
structure Process where
  params : Params
  listeners : Listeners
  koanf : Koanf
  environ : Environ
  auth : AuthServiceConfig
  quote : String → String
  libraries : Libraries

end Libraries

section Operations

/-- What an HTTP client gets. -/
inductive HTTPResponse where
  | health (status : ℕ) (body : String)
  | spec
  | notFound
  | gateway (answer : Except GRPCStatus Response)

/-- How `http.Server.Serve` ends. -/
inductive ServeError where
  | serverClosed
  | failed (text : String)
  deriving DecidableEq, Repr

inductive Op where
  | enter (token : Token)
  | traceExporter (endpoint : String)
  | metricExporter (endpoint : String)
  | loadAWSConfig
  | newRedisClient
  | generateKey
  | registerGateway
  | listen (address : String)
  | spawn (token : Token)
  | wait
  | leave (token : Token) (result : Option GoError)
  | httpServe
  | httpServeReturn
  | grpcServe
  | grpcServeReturn
  | ctxDone
  | storeShuttingDown
  | sleep (duration : Duration)
  | sleepReturn (wake : Time)
  | gracefulStop
  | gracefulStopReturn
  | withTimeout (timeout : Duration)
  | httpShutdown
  | httpShutdownReturn (deadline : Time)
  | bgWait
  | redisClose
  | metricsShutdown (deadline : Time)
  | tracerShutdown (deadline : Time)
  | readRequest (number : ℕ)
  | loadShuttingDown
  | writeResponse (number : ℕ) (response : HTTPResponse)
  | close (number : ℕ)
  | service (op : Operations.Op)
  | goSend (phone otp : String)
  | sendOTP (phone otp : String)

abbrev Op.Res : Op → Type
  | .enter _ => Unit
  | .traceExporter _ => Except GoError Unit
  | .metricExporter _ => Except GoError Unit
  | .loadAWSConfig => Except GoError Unit
  | .newRedisClient => Unit
  | .generateKey => Except GoError Unit
  | .registerGateway => Except GoError Unit
  | .listen _ => Except GoError Unit
  | .spawn _ => Unit
  | .wait => Option GoError
  | .leave _ _ => Unit
  | .httpServe => Unit
  | .httpServeReturn => ServeError
  | .grpcServe => Unit
  | .grpcServeReturn => Except GoError Unit
  | .ctxDone => Unit
  | .storeShuttingDown => Unit
  | .sleep _ => Time
  | .sleepReturn _ => Unit
  | .gracefulStop => Unit
  | .gracefulStopReturn => Unit
  | .withTimeout _ => Time
  | .httpShutdown => Unit
  | .httpShutdownReturn _ => Except GoError Unit
  | .bgWait => Unit
  | .redisClose => Except GoError Unit
  | .metricsShutdown _ => Except GoError Unit
  | .tracerShutdown _ => Except GoError Unit
  | .readRequest _ => Bool
  | .loadShuttingDown => Bool
  | .writeResponse _ _ => Bool
  | .close _ => Unit
  | .service op => op.Res
  | .goSend _ _ => ℕ
  | .sendOTP _ _ => Except GoError Unit

end Operations

section Programs

variable (process : Process)

/-- The request that a goroutine makes. -/
def ask (op : Op) : Prog Op Op.Res op.Res := Prog.perform op

/-- How a goroutine ends. -/
inductive Exit where
  | returned (err : Option GoError)
  | closed
  | answered (answer : Except GRPCStatus Response)
  | sent

/-- Startup code: every step can fail. -/
abbrev Startup := ExceptT GoError (Prog Op Op.Res) Unit

/-- `fmt.Errorf(text, err)` around the error of some steps. -/
def wrapping (text : String) (steps : Startup) : Startup :=
  ExceptT.mk do
    match ← steps.run with
    | .ok () => return .ok ()
    | .error err => return .error (Flows.wrapped text err)

/-- One step that can fail. -/
def trying (op : Op) (answer : op.Res → Except GoError Unit) : Startup :=
  ExceptT.mk (ask op >>= fun response => pure (answer response))

section Startup

def initTracer (cfg : Config) : Startup :=
  if cfg.otel.endpoint ≠ "" then
    wrapping "create OTLP exporter: %w"
      (trying (.traceExporter cfg.otel.endpoint) id)
  else pure ()

def initMetrics (cfg : Config) : Startup :=
  if cfg.otel.endpoint ≠ "" then
    wrapping "create OTLP metric exporter: %w"
      (trying (.metricExporter cfg.otel.endpoint) id)
  else pure ()

def initOTEL (cfg : Config) : Startup := do
  wrapping "initialize tracer: %w" (initTracer cfg)
  wrapping "initialize metrics: %w" (initMetrics cfg)

def isLocal (cfg : Config) : Bool := cfg.environment == "local"

def createKeyStore (cfg : Config) : Startup :=
  if isLocal cfg then
    wrapping "generate dev RSA key: %w" (trying .generateKey id)
  else throw (.plain "production key store not yet implemented (TF-1)")

/-- `setup` of the chat management service, without what cannot fail and needs
nothing of the environment. -/
def setup (cfg : Config) : Setup → Startup
  | .chatmgmt => do
      wrapping "chatmgmt setup: create dynamo client: %w"
        (wrapping "load AWS config: %w" (trying .loadAWSConfig id))
      trying .newRedisClient fun _ => .ok ()
      wrapping "chatmgmt setup: create key store: %w" (createKeyStore cfg)
      wrapping "chatmgmt setup: register grpc-gateway: %w"
        (trying .registerGateway id)

def runSetup (cfg : Config) : Option Setup → Startup
  | none => pure ()
  | some callback => wrapping "setup: %w" (setup cfg callback)

/-- `listen %s: %w` with the protocol filled in. -/
def listenError (protocol : String) (err : GoError) : GoError :=
  .errorf "listen %s: %w" [protocol] [err]

def resolveListener (injected : Bool) (portFn : Config → ℤ) (cfg : Config)
    (protocol : String) : Startup :=
  if injected then pure ()
  else
    trying (.listen (":" ++ toString (portFn cfg)))
      fun opened => opened.mapError (listenError protocol)

def resolveGRPCListener (injected : Bool) (p : Params) (cfg : Config) :
    Startup :=
  match p.grpcPortFromConfig with
  | none => pure ()
  | some portFn => resolveListener injected portFn cfg "grpc"

/-- `Run` up to the point where the servers start. -/
def startup : Startup := do
  match load process.koanf process.environ with
  | .error err => throw (Flows.wrapped "load config: %w" err)
  | .ok cfg => do
      initOTEL cfg
      runSetup cfg process.params.setup
      resolveListener process.listeners.http process.params.portFromConfig cfg
        "http"
      resolveGRPCListener process.listeners.grpc process.params cfg

end Startup

section Goroutines

/-- The functions given to the error group, in order. -/
def Params.goroutines (p : Params) : List Token :=
  if p.hasGRPC then [.serveHTTP, .serveGRPC, .shutdown]
  else [.serveHTTP, .shutdown]

def spawnAll : List Token → Prog Op Op.Res Unit
  | [] => pure ()
  | token :: rest => do
      let _ ← ask (.spawn token)
      spawnAll rest

def run : Prog Op Op.Res Exit := do
  let _ ← ask (.enter .run)
  match ← (startup process).run with
  | .error err => return .returned (some err)
  | .ok () => do
      spawnAll process.params.goroutines
      let err ← ask .wait
      return .returned err

def ServeError.result : ServeError → Option GoError
  | .serverClosed => none
  | .failed text => some (.plain text)

def serveHTTP : Prog Op Op.Res Exit := do
  let _ ← ask (.enter .serveHTTP)
  let _ ← ask .httpServe
  let serveErr ← ask .httpServeReturn
  let _ ← ask (.leave .serveHTTP serveErr.result)
  return .returned serveErr.result

def grpcResult : Except GoError Unit → Option GoError
  | .ok () => none
  | .error err => some (Flows.wrapped "grpc serve: %w" err)

def serveGRPC : Prog Op Op.Res Exit := do
  let _ ← ask (.enter .serveGRPC)
  let _ ← ask .grpcServe
  let serveErr ← ask .grpcServeReturn
  let _ ← ask (.leave .serveGRPC (grpcResult serveErr))
  return .returned (grpcResult serveErr)

/-- `grpcServer.GracefulStop()`, if there is a gRPC server. -/
def stopGRPC (p : Params) : Prog Op Op.Res Unit :=
  if p.hasGRPC then do
    let _ ← ask .gracefulStop
    let _ ← ask .gracefulStopReturn
    pure ()
  else pure ()

/-- The cleanup that the setup returned, if there is one: wait for the
background goroutines, then close the Redis client. -/
def cleanup (p : Params) : Prog Op Op.Res Unit :=
  if p.hasSetup then do
    let _ ← ask .bgWait
    let _ ← ask .redisClose
    pure ()
  else pure ()

def shutdownFunc (p : Params) : Prog Op Op.Res Exit := do
  let _ ← ask (.enter .shutdown)
  let _ ← ask .ctxDone
  let _ ← ask .storeShuttingDown
  let wake ← ask (.sleep shutdownDrainDelay)
  let _ ← ask (.sleepReturn wake)
  stopGRPC p
  let httpDeadline ← ask (.withTimeout shutdownHTTPTimeout)
  let _ ← ask .httpShutdown
  let _ ← ask (.httpShutdownReturn httpDeadline)
  cleanup p
  let otelDeadline ← ask (.withTimeout shutdownOTELTimeout)
  let _ ← ask (.metricsShutdown otelDeadline)
  let _ ← ask (.tracerShutdown otelDeadline)
  let _ ← ask (.leave .shutdown none)
  return .returned none

end Goroutines

section Requests

/-- A request of the service as its goroutine makes it.  The code is sent by
another goroutine, whose result this one never sees. -/
def detached {A : Type} : Prog Operations.Op Operations.Op.Res A →
    Prog Op Op.Res A
  | .pure value => .pure value
  | .call op next =>
      match op, next with
      | .sendOTP phone otp, next =>
          .call (.goSend phone otp) fun _ => detached (next (.ok ()))
      | op, next => .call (.service op) fun response => detached (next response)

/-- What an HTTP client asks for. -/
inductive Route where
  | healthz
  | openapi
  | gateway (ctx : Context) (rpc : RPC)
  | other

def healthBody (status name : String) : String :=
  r#"{"status":""# ++ status ++ r#"","service":"# ++ process.quote name ++
    r"}"

def healthHandler : Prog Op Op.Res HTTPResponse := do
  let shuttingDown ← ask .loadShuttingDown
  if shuttingDown then
    return .health 503
      (healthBody process "shutting_down" process.params.name)
  else return .health 200 (healthBody process "healthy" process.params.name)

/-- The mux: the health check always, the other routes from the setup. -/
def serveRoute : Route → Prog Op Op.Res HTTPResponse
  | .healthz => healthHandler process
  | .openapi =>
      if process.params.hasSetup then pure .spec else pure .notFound
  | .gateway ctx rpc =>
      if process.params.hasSetup then do
        let answer ← detached (handle process.auth process.quote ctx rpc)
        return .gateway answer
      else pure .notFound
  | .other => pure .notFound

/-- One request after the other, until the client or the server closes the
connection. -/
def serveRequests (number : ℕ) : List Route → Prog Op Op.Res Exit
  | [] => do
      let _ ← ask (.close number)
      return .closed
  | route :: rest => do
      let opened ← ask (.readRequest number)
      if opened then do
        let response ← serveRoute process route
        let keepAlive ← ask (.writeResponse number response)
        if keepAlive then serveRequests number rest else return .closed
      else return .closed

def connection (number : ℕ) (routes : List Route) : Prog Op Op.Res Exit := do
  let _ ← ask (.enter (.connection number))
  serveRequests process number routes

/-- A call of a service that nothing registered is refused. -/
def serveRPC (number : ℕ) (ctx : Context) (rpc : RPC) :
    Prog Op Op.Res Exit := do
  let _ ← ask (.enter (.rpc number))
  if process.params.hasSetup then do
    let answer ← detached (handle process.auth process.quote ctx rpc)
    let _ ← ask (.leave (.rpc number) none)
    return .answered answer
  else do
    let _ ← ask (.leave (.rpc number) none)
    return .closed

/-- The background goroutine of `RequestOTP`; a failure is logged only. -/
def sendInBackground (number : ℕ) (phone otp : String) :
    Prog Op Op.Res Exit := do
  let _ ← ask (.enter (.send number phone otp))
  let _ ← ask (.sendOTP phone otp)
  let _ ← ask (.leave (.send number phone otp) none)
  return .sent

/-- A goroutine with its arguments. -/
inductive Task where
  | run
  | serveHTTP
  | serveGRPC
  | shutdown
  | connection (number : ℕ) (routes : List Route)
  | rpc (number : ℕ) (ctx : Context) (rpc : RPC)
  | send (number : ℕ) (phone otp : String)

def Task.token : Task → Token
  | .run => .run
  | .serveHTTP => .serveHTTP
  | .serveGRPC => .serveGRPC
  | .shutdown => .shutdown
  | .connection number _ => .connection number
  | .rpc number _ _ => .rpc number
  | .send number phone otp => .send number phone otp

def body : Task → Prog Op Op.Res Exit
  | .run => run process
  | .serveHTTP => serveHTTP
  | .serveGRPC => serveGRPC
  | .shutdown => shutdownFunc process.params
  | .connection number routes => connection process number routes
  | .rpc number ctx rpc => serveRPC process number ctx rpc
  | .send number phone otp => sendInBackground number phone otp

end Requests

end Programs

section Machine

inductive Env where
  | signal
  | store (change : Operations.Env)

/-- Whether a goroutine can start.  Connections and calls are started by the
servers, the others by the goroutine that spawned them. -/
def Libraries.startable (libraries : Libraries) (state : State) : Token → Bool
  | .run => true
  | .connection _ => state.httpServing && !state.inShutdown
  | .rpc _ => libraries.accepts state
  | token => state.live.contains token

/-- Connections and calls count from their first byte. -/
def Token.counted : Token → List Token
  | .connection number => [.connection number]
  | .rpc number => [.rpc number]
  | _ => []

def usesRedis : Operations.Op → Bool
  | .redisEval _ _ => true
  | .redisExists _ => true
  | .redisSet _ _ => true
  | _ => false

/-- The result of a step that the environment lets fail. -/
def fallible : Choice → Option (Except GoError Unit)
  | .ok => some (.ok ())
  | .fault text => some (.error (.plain text))
  | _ => none

/-- The result of `Serve` of the HTTP server. -/
def serveOutcome (state : State) : Choice → Option (ServeError × State)
  | .ok => if state.inShutdown then some (.serverClosed, state) else none
  | .fault text =>
      if state.inShutdown then none
      else some (.failed text, { state with httpServing := false })
  | _ => none

/-- The result of `Shutdown` of the HTTP server. -/
def shutdownOutcome (deadline : Time) (state : State) :
    Choice → Option (Except GoError Unit × State)
  | .timeout =>
      if deadline ≤ state.store.clock then
        some (.error (.plain "context deadline exceeded"), state)
      else none
  | choice =>
      if state.live.any Token.isConnection then none
      else (fallible choice).map fun result =>
        (result, { state with idle := [] })

/-- A request of the service.  The commands of a closed Redis client fail. -/
def performService (cfg : AuthServiceConfig) (op : Operations.Op)
    (state : State) : Choice → Option (op.Res × State)
  | .service choice =>
      if usesRedis op && state.redisClosed then
        (op.failure "redis: client is closed").map fun response =>
          (response, state)
      else
        (Operations.perform cfg op choice state.store).map fun performed =>
          (performed.1, { state with store := performed.2 })
  | _ => none

def perform (process : Process) :
    (op : Op) → Choice → State → Option (op.Res × State)
  | .enter token, _, state =>
      if process.libraries.startable state token &&
          !state.begun.contains token then
        some ((), { state with
          begun := token :: state.begun
          live := token.counted ++ state.live })
      else none
  | .traceExporter _, choice, state =>
      (fallible choice).map fun result => (result, state)
  | .metricExporter _, choice, state =>
      (fallible choice).map fun result => (result, state)
  | .loadAWSConfig, choice, state =>
      (fallible choice).map fun result => (result, state)
  | .newRedisClient, _, state => some ((), state)
  | .generateKey, choice, state =>
      (fallible choice).map fun result => (result, state)
  | .registerGateway, choice, state =>
      (fallible choice).map fun result => (result, state)
  | .listen _, choice, state =>
      (fallible choice).map fun result => (result, state)
  | .spawn token, _, state =>
      some ((), { state with live := token :: state.live })
  | .wait, choice, state =>
      (process.libraries.groupWait state choice).map fun err => (err, state)
  | .leave token result, _, state =>
      some ((), { state with
        live := state.live.filter (· ≠ token)
        groupErr := state.groupErr.or result })
  | .httpServe, _, state =>
      some ((), { state with
        httpServing := state.httpServing || !state.inShutdown })
  | .httpServeReturn, choice, state => serveOutcome state choice
  | .grpcServe, _, state =>
      some ((), { state with
        grpcServing := state.grpcServing || !state.quit })
  | .grpcServeReturn, choice, state =>
      (process.libraries.grpcServe state choice).map fun result =>
        (result, state)
  | .ctxDone, choice, state =>
      if process.libraries.groupDone state choice then some ((), state)
      else none
  | .storeShuttingDown, _, state =>
      some ((), { state with shuttingDown := true })
  | .sleep duration, _, state => some (state.store.clock + duration, state)
  | .sleepReturn wake, _, state =>
      if wake ≤ state.store.clock then some ((), state) else none
  | .gracefulStop, _, state => some ((), { state with quit := true })
  | .gracefulStopReturn, choice, state =>
      if process.libraries.gracefulStop state choice then
        some ((), { state with stopped := true })
      else none
  | .withTimeout timeout, _, state => some (state.store.clock + timeout, state)
  | .httpShutdown, _, state => some ((), { state with inShutdown := true })
  | .httpShutdownReturn deadline, choice, state =>
      shutdownOutcome deadline state choice
  | .bgWait, _, state =>
      if state.live.any Token.isSend then none else some ((), state)
  | .redisClose, choice, state =>
      (fallible choice).map fun result =>
        (result, { state with redisClosed := true })
  | .metricsShutdown _, choice, state =>
      (fallible choice).map fun result => (result, state)
  | .tracerShutdown _, choice, state =>
      (fallible choice).map fun result => (result, state)
  | .readRequest number, _, state =>
      if state.live.contains (.connection number) then some (true, state)
      else if state.idle.contains number then
        some (true, { state with
          idle := state.idle.filter (· ≠ number)
          live := .connection number :: state.live })
      else some (false, state)
  | .loadShuttingDown, _, state => some (state.shuttingDown, state)
  | .writeResponse number _, _, state =>
      let ended := state.live.filter (· ≠ .connection number)
      if state.inShutdown then some (false, { state with live := ended })
      else some (true, { state with
        live := ended
        idle := number :: state.idle })
  | .close number, _, state =>
      some ((), { state with
        live := state.live.filter (· ≠ .connection number)
        idle := state.idle.filter (· ≠ number) })
  | .service op, choice, state => performService process.auth op state choice
  | .goSend phone otp, .number number, state =>
      if state.sends.contains number then none
      else some (number, { state with
        sends := number :: state.sends
        live := .send number phone otp :: state.live })
  | .goSend _ _, _, _ => none
  | .sendOTP phone otp, .service choice, state =>
      (Operations.perform process.auth (.sendOTP phone otp) choice
        state.store).map fun performed =>
          (performed.1, { state with store := performed.2 })
  | .sendOTP _ _, _, _ => none

def advance : Env → State → Option State
  | .signal, state => some { state with signalled := true }
  | .store change, state =>
      (Operations.advance change state.store).map fun store =>
        { state with store := store }

def server (process : Process) :
    Machine State Op Op.Res Choice Env Task Exit where
  program := body process
  perform := perform process
  advance := advance

end Machine

abbrev Pool := Interleaving.Pool State Op Op.Res Task Exit
abbrev Call := Interleaving.Call Op Op.Res Task Exit
abbrev Event := Interleaving.Event State Op Op.Res
abbrev Label := Interleaving.Label Choice Env Task
abbrev Entry := Program.Entry Op Op.Res
abbrev History := Program.History Op Op.Res

/-- The process with empty tables at some instant. -/
def boot (clock : Time) : Pool := .initial (State.initial (.empty clock))

/-- Every step is allowed. -/
def anyStep (_ : Pool) (_ : Label) : Prop := True

instance (pool : Pool) (label : Label) : Decidable (anyStep pool label) :=
  isTrue trivial

end MessagingPlatform.Lifecycle
