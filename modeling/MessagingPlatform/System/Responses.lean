import MessagingPlatform.Errmap.Mappers
import MessagingPlatform.System.ObliviousFlows
import MessagingPlatform.System.Deployment

/-!
# What clients learn from errors

Two runs that differ in the texts of failures only end in errors of the same
shape, so clients get the same codes.  The messages are the same as long as an
error with a sentinel of the mapping tables has no failure in it.  The failures
of the limiter do travel with a sentinel, and then the client is sent their
texts.
-/

namespace MessagingPlatform.Responses

open Program
open Interleaving
open Relational
open Instants
open Errors
open Records
open Primitives
open Tables
open Operations
open Flows
open Service
open Mappers
open ObliviousFlows
open Deployment

section Definitions

/-- What the client of a call is sent: its result, or the status of its
error. -/
inductive Response (Status : Type) where
  | requestOTP (answer : Except Status RequestOTPResult)
  | verifyOTP (answer : Except Status VerifyOTPResult)
  | refreshTokens (answer : Except Status RefreshResult)
  | logout (answer : Except Status Unit)
  deriving DecidableEq

/-- The handlers of `port/auth_handler.go`, which map every error. -/
def respond {Status : Type} (status : GoError → Status) :
    Outcome → Response Status
  | .requestOTP outcome => .requestOTP (outcome.mapError status)
  | .verifyOTP outcome => .verifyOTP (outcome.mapError status)
  | .refreshTokens outcome => .refreshTokens (outcome.mapError status)
  | .logout outcome => .logout (outcome.mapError status)

/-- The response to a call, once it has returned. -/
def responseTo {Status : Type} (status : GoError → Status) (call : Call) :
    Option (Response Status) :=
  match call.rest with
  | .pure outcome => some (respond status outcome)
  | .call _ _ => none

variable (quote : String → String)

/-- The gRPC responses of a pool. -/
def grpcResponse (pool : Pool) (id : ℕ) : Option (Response GRPCStatus) :=
  (pool.calls.lookup id).bind
    (responseTo fun err => toGRPCStatus quote (some err))

/-- The codes of the gRPC responses of a pool. -/
def grpcCode (pool : Pool) (id : ℕ) : Option (Response Code) :=
  (pool.calls.lookup id).bind
    (responseTo fun err => (toGRPCStatus quote (some err)).code)

/-- The HTTP responses of a pool. -/
def httpResponse (pool : Pool) (id : ℕ) : Option (Response HTTPError) :=
  (pool.calls.lookup id).bind
    (responseTo fun err => toHTTPError quote (some err))

/-- Errors of the same shape that are equal if a sentinel of the tables is in
them. -/
structure Unrevealing (left right : GoError) : Prop where
  shape : SameShape left right
  equal : mapped left = true → left = right

end Definitions

section Relations

theorem sameShape_errorf (format : String) (args : List String)
    {left right : GoError} (hshape : SameShape left right) :
    SameShape (.errorf format args [left]) (.errorf format args [right]) := by
  simp [SameShape, AllSameShape, hshape]

theorem sameShape_unavailable (text : String) {left right : GoError}
    (hshape : SameShape left right) :
    SameShape (unavailable text left) (unavailable text right) := by
  refine sameShape_errorf text [] ?_
  simp [SameShape, AllSameShape, hshape]

theorem mapped_errorf (format : String) (args : List String) (err : GoError) :
    mapped (.errorf format args [err]) = mapped err := by
  simp [mapped, errorsIs, anyIs]

/-- Whatever the texts, the errors have the same shape. -/
theorem congruence_sameShape : Congruence SameText SameShape where
  refl := sameShape_refl
  failure _ _ := by simp [SameShape]
  wrap format args _ _ hshape := sameShape_errorf format args hshape
  unavailable := by
    rintro text _ _ ⟨format, args, hfailures⟩
    refine sameShape_unavailable text (sameShape_errorf format args ?_)
    cases hfailures with
    | refl => exact sameShape_refl _
    | plain => simp [SameShape]
  is := errorsIs_of_sameShape

/-- Unless the limiter's failures differ, the errors reveal nothing. -/
theorem congruence_unrevealing : Congruence Eq Unrevealing where
  refl err := ⟨sameShape_refl err, fun _ => rfl⟩
  failure _ _ := ⟨by simp [SameShape], fun hmapped => by cases hmapped⟩
  wrap := by
    intro format args left right hsame
    refine ⟨sameShape_errorf format args hsame.shape, fun hmapped => ?_⟩
    rw [mapped_errorf] at hmapped
    rw [hsame.equal hmapped]
  unavailable := by
    rintro text _ _ ⟨format, args, rfl⟩
    exact ⟨sameShape_refl _, fun _ => rfl⟩
  is target left right hsame := errorsIs_of_sameShape target left right
    hsame.shape

end Relations

section Runs

variable {cfg : AuthServiceConfig} {clock : Time} {left right : Pool}

/-- Runs that differ in texts stay alike up to the shapes of errors. -/
theorem alike_of_texts
    (hpaired : Paired (machine cfg) (fun _ => SameChoice) (start clock) left
      right) :
    Alike (Agree SameText) (SameOutcome SameShape) left right := by
  refine hpaired.alike (related_program congruence_sameShape) ?_
    ⟨rfl, fun _ => .none⟩
  intro op choice choice' store response response' after after' hsame
  exact agree_of_perform .refl (fun _ => .inr .plain) hsame

/-- Runs that get the same failures of the limiter reveal nothing. -/
theorem alike_of_limiter
    (hpaired : Paired (machine cfg) SameLimiterChoice (start clock) left
      right) :
    Alike (Agree Eq) (SameOutcome Unrevealing) left right := by
  refine hpaired.alike (related_program congruence_unrevealing) ?_
    ⟨rfl, fun _ => .none⟩
  intro op choice choice' store response response' after after' hsame
  exact agree_of_perform Eq.refl (fun hlimiter => .inl (hsame.2 hlimiter))
    hsame.1

variable {limiter same : GoError → GoError → Prop}
variable {Status : Type} {status : GoError → Status}
variable (hstatus : ∀ err err', same err err' → status err = status err')

include hstatus

theorem mapError_of_sameResult {A : Type}
    {outcome outcome' : Except GoError A}
    (hsame : SameResult same Eq outcome outcome') :
    outcome.mapError status = outcome'.mapError status := by
  cases hsame with
  | ok hvalue => rw [hvalue]
  | error herror => simp only [Except.mapError, hstatus _ _ herror]

theorem respond_of_sameOutcome {outcome outcome' : Outcome}
    (hsame : SameOutcome same outcome outcome') :
    respond status outcome = respond status outcome' := by
  cases outcome <;> cases outcome' <;>
    first
      | exact hsame.elim
      | simp only [respond, mapError_of_sameResult hstatus hsame]

theorem responseTo_of_sameCall {leftCall rightCall : Call}
    (hcall : SameCall (Agree limiter) (SameOutcome same) leftCall rightCall) :
    responseTo status leftCall = responseTo status rightCall := by
  have hrest := hcall.rest
  unfold responseTo
  generalize leftCall.rest = leftRest at hrest ⊢
  generalize rightCall.rest = rightRest at hrest ⊢
  cases hrest with
  | pure hpost => exact congrArg some (respond_of_sameOutcome hstatus hpost)
  | call hnext => rfl

theorem responses_of_alike
    (halike : Alike (Agree limiter) (SameOutcome same) left right) (id : ℕ) :
    (left.calls.lookup id).bind (responseTo status) =
      (right.calls.lookup id).bind (responseTo status) := by
  have hcalls := halike.calls id
  generalize left.calls.lookup id = leftCall at hcalls ⊢
  generalize right.calls.lookup id = rightCall at hcalls ⊢
  cases hcalls with
  | none => rfl
  | some hcall => exact responseTo_of_sameCall hstatus hcall

end Runs

section Responses

theorem grpcStatus_of_unrevealing (quote : String → String)
    {err err' : GoError} (hsame : Unrevealing err err') :
    toGRPCStatus quote (some err) = toGRPCStatus quote (some err') := by
  rw [toGRPCStatus_eq_iff quote hsame.shape]
  cases hmapped : mapped err with
  | false => exact .inl rfl
  | true => exact .inr (by rw [hsame.equal hmapped])

theorem httpError_of_unrevealing (quote : String → String)
    {err err' : GoError} (hsame : Unrevealing err err') :
    toHTTPError quote (some err) = toHTTPError quote (some err') := by
  rw [toHTTPError_eq_iff quote hsame.shape, ← toGRPCStatus_eq_iff quote
    hsame.shape]
  exact grpcStatus_of_unrevealing quote hsame

/-- Errors of the same shape get the same codes, and the same messages exactly
if no sentinel of the tables is in them or their texts are equal.  Two runs
that differ in texts give every client the same code, and the same response if
the failures of the limiter are the same. -/
theorem responses_reveal_only_mapped_texts (quote : String → String) :
    (∀ left right : GoError, SameShape left right →
      (toGRPCStatus quote (some left)).code =
          (toGRPCStatus quote (some right)).code ∧
        (toHTTPError quote (some left)).statusCode =
          (toHTTPError quote (some right)).statusCode ∧
        (toHTTPError quote (some left)).code =
          (toHTTPError quote (some right)).code ∧
        (toGRPCStatus quote (some left) = toGRPCStatus quote (some right) ↔
          mapped left = false ∨
            errorText quote left = errorText quote right) ∧
        (toHTTPError quote (some left) = toHTTPError quote (some right) ↔
          mapped left = false ∨
            errorText quote left = errorText quote right)) ∧
      ∀ (cfg : AuthServiceConfig) (clock : Time) (left right : Pool),
        (Paired (machine cfg) (fun _ => SameChoice) (start clock) left right →
          ∀ id, grpcCode quote left id = grpcCode quote right id) ∧
        (Paired (machine cfg) SameLimiterChoice (start clock) left right →
          ∀ id, grpcResponse quote left id = grpcResponse quote right id ∧
            httpResponse quote left id = httpResponse quote right id) := by
  refine ⟨?_, fun cfg clock left right => ⟨?_, ?_⟩⟩
  · intro left right hshape
    obtain ⟨hstatusCode, hcode⟩ := httpCode_of_sameShape quote hshape
    exact ⟨grpcCode_of_sameShape quote hshape, hstatusCode, hcode,
      toGRPCStatus_eq_iff quote hshape, toHTTPError_eq_iff quote hshape⟩
  · intro hpaired id
    have hcode : ∀ err err', SameShape err err' →
        (toGRPCStatus quote (some err)).code =
          (toGRPCStatus quote (some err')).code :=
      fun _ _ => grpcCode_of_sameShape quote
    exact responses_of_alike hcode (alike_of_texts hpaired) id
  · intro hpaired id
    have hgrpc : ∀ err err', Unrevealing err err' →
        toGRPCStatus quote (some err) = toGRPCStatus quote (some err') :=
      fun _ _ => grpcStatus_of_unrevealing quote
    have hhttp : ∀ err err', Unrevealing err err' →
        toHTTPError quote (some err) = toHTTPError quote (some err') :=
      fun _ _ => httpError_of_unrevealing quote
    have halike := alike_of_limiter hpaired
    exact ⟨responses_of_alike hgrpc halike id,
      responses_of_alike hhttp halike id⟩

end Responses

section Examples

/-- `strconv.Quote` on printable ASCII without quotes and backslashes. -/
def quoteASCII (text : String) : String := "\"" ++ text ++ "\""

/-- A code request after its first operations. -/
def requested (choices : List Choice) : Pool :=
  (machine (deployment [])).runTo anyStep (start evening)
    (serve 0 (.requestOTP phone "203.0.113.7") choices)

/-- The code request fails in its next operation. -/
def failed (choices : List Choice) (text : String) : Pool :=
  ((machine (deployment [])).step (requested choices)
    (.exec 0 (.fault text))).getD (requested choices)

theorem step_failed {choices : List Choice} {text : String}
    (henabled : ((machine (deployment [])).step (requested choices)
      (.exec 0 (.fault text))).isSome = true) :
    (machine (deployment [])).step (requested choices) (.exec 0 (.fault text)) =
      some (failed choices text) := by
  obtain ⟨reached, hstep⟩ := Option.isSome_iff_exists.mp henabled
  rw [failed, hstep, Option.getD_some]

/-- Two code requests that fail in the same place with different texts. -/
theorem paired_failed {same : Op → Choice → Choice → Prop}
    {choices : List Choice} {text text' : String}
    (hrefl : ∀ op choice, same op choice choice)
    (hsame : ∀ op, (requested choices).nextOp 0 = some op →
      same op (.fault text) (.fault text'))
    (hleft : ((machine (deployment [])).step (requested choices)
      (.exec 0 (.fault text))).isSome = true)
    (hright : ((machine (deployment [])).step (requested choices)
      (.exec 0 (.fault text'))).isSome = true) :
    Paired (machine (deployment [])) same (start evening)
      (failed choices text) (failed choices text') := by
  have hlabel : SameLabel same (requested choices)
      (.exec 0 (.fault text) : Label) (.exec 0 (.fault text')) := ⟨rfl, hsame⟩
  exact (paired_of_reach hrefl (Machine.reach_runTo _)).step hlabel
    (step_failed hleft) (step_failed hright)

/-- The client of a code request can tell the two addresses of Redis. -/
theorem limiter_failure_revealed :
    (∃ left right : GoError, SameShape left right ∧
      toGRPCStatus quoteASCII (some left) ≠
        toGRPCStatus quoteASCII (some right) ∧
      toHTTPError quoteASCII (some left) ≠
        toHTTPError quoteASCII (some right)) ∧
    ∃ left right : Pool,
      Paired (machine (deployment [])) (fun _ => SameChoice) (start evening)
        left right ∧
      grpcResponse quoteASCII left 0 ≠ grpcResponse quoteASCII right 0 := by
  constructor
  · refine ⟨unavailable "check lockout: %w" (.plain "dial tcp 10.0.3.17:6379"),
      unavailable "check lockout: %w" (.plain "dial tcp 10.0.3.18:6379"),
      sameShape_unavailable _ (by simp [SameShape]), ?_⟩
    decide +kernel
  · refine ⟨failed [] "dial tcp 10.0.3.17:6379",
      failed [] "dial tcp 10.0.3.18:6379", ?_, ?_⟩
    · exact paired_failed (fun _ => .refl) (fun _ _ => .fault _ _)
        (by decide +kernel) (by decide +kernel)
    · decide +kernel

/-- A code request up to the write of its record. -/
def untilPut : List Choice := (issuing 123456).take 5

theorem sameLimiterChoice_untilPut (op : Op)
    (hop : (requested untilPut).nextOp 0 = some op) (text text' : String) :
    SameLimiterChoice op (.fault text) (.fault text') := by
  have hput : (requested untilPut).nextOp 0 =
      some (.otpPutItem phoneDigest (toOTPItem (newOTPRecord (deployment [])
        "123456" phoneDigest evening)) (format evening)) := by
    decide +kernel
  rw [hput] at hop
  cases hop
  exact ⟨.fault text text', fun hlimiter => by cases hlimiter⟩

/-- The client of a code request cannot tell two failures of DynamoDB. -/
theorem table_failure_hidden :
    (toGRPCStatus quoteASCII (some (.plain "throttled")) =
        toGRPCStatus quoteASCII (some (.plain "no such host"))) ∧
      grpcResponse quoteASCII (failed untilPut "throttled") 0 =
        some (.requestOTP (.error ⟨.internal, "internal error"⟩)) ∧
      grpcResponse quoteASCII (failed untilPut "throttled") 0 =
        grpcResponse quoteASCII (failed untilPut "no such host") 0 ∧
      httpResponse quoteASCII (failed untilPut "throttled") 0 =
        httpResponse quoteASCII (failed untilPut "no such host") 0 := by
  obtain ⟨htrees, hruns⟩ := responses_reveal_only_mapped_texts quoteASCII
  have hpaired : Paired (machine (deployment [])) SameLimiterChoice
      (start evening) (failed untilPut "throttled")
      (failed untilPut "no such host") :=
    paired_failed (fun _ choice => ⟨.refl choice, fun _ => rfl⟩)
      (fun op hop => sameLimiterChoice_untilPut op hop _ _)
      (by decide +kernel) (by decide +kernel)
  obtain ⟨-, -, -, hgrpc, -⟩ := htrees (.plain "throttled")
    (.plain "no such host") (by simp [SameShape])
  obtain ⟨hgrpcResponse, hhttpResponse⟩ := (hruns _ _ _ _).2 hpaired 0
  exact ⟨hgrpc.mpr (.inl (by decide)), by decide +kernel, hgrpcResponse,
    hhttpResponse⟩

end Examples

end MessagingPlatform.Responses
