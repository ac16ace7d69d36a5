import MessagingPlatform.App.FlowSteps
import MessagingPlatform.System.Service

/-!
# Calls of the service as single steps

A call that arrives in a pool and is served before anything else happens.  Its
outcomes are the endings of its flow on the store of that pool.
-/

namespace MessagingPlatform.SingleSteps

open Program
open Interleaving
open OneStep
open Errors
open Records
open Primitives
open Tables
open Operations
open StoreSteps
open Flows
open Service

/-- Call `id` arrives in `first`, makes its requests as `permits` allows while
nothing else happens, and has returned in `ended`. -/
structure Stepped (cfg : AuthServiceConfig) (permits : Choice → Prop)
    (first : Pool) (id : ℕ) (req : Request) (history : History)
    (outcome : Outcome) (ended : Pool) : Prop where
  arrives : first.calls.lookup id = none
  alone : (machine cfg).Reach (onlyCall id permits)
    (first.startCall (machine cfg) id req) ended
  returned : ended.calls.lookup id = some ⟨req, history, .pure outcome⟩

variable {cfg : AuthServiceConfig} {permits : Choice → Prop}
variable {first ended : Pool} {id : ℕ} {req : Request} {history : History}
variable {outcome : Outcome} {after : Store}

theorem Stepped.runs
    (hstepped : Stepped cfg permits first id req history outcome ended) :
    Runs (performs cfg permits) (program cfg req) first.store history outcome
      ended.store := by
  have hcall : (first.startCall (machine cfg) id req).calls.lookup id =
      some ⟨req, [], program cfg req⟩ := AList.lookup_insert _
  refine (reach_iff_runs hcall).mp ⟨ended, hstepped.alone, ?_, rfl⟩
  rw [List.append_nil]
  exact hstepped.returned

/-- Every ending of the flow is that of a call. -/
theorem exists_stepped (harrives : first.calls.lookup id = none)
    (hruns : Runs (performs cfg permits) (program cfg req) first.store history
      outcome after) :
    ∃ ended, Stepped cfg permits first id req history outcome ended ∧
      ended.store = after := by
  have hcall : (first.startCall (machine cfg) id req).calls.lookup id =
      some ⟨req, [], program cfg req⟩ := AList.lookup_insert _
  obtain ⟨ended, halone, hreturned, hstore⟩ := reach_of_runs hcall
    (show Runs (permitted (machine cfg) permits) (program cfg req) first.store
      history outcome after from hruns)
  rw [List.append_nil] at hreturned
  exact ⟨ended, ⟨harrives, halone, hreturned⟩, hstore⟩

/-- A single step is part of a run. -/
theorem Stepped.reach {earlier : Pool → Label → Prop} {origin : Pool}
    (hstepped : Stepped cfg permits first id req history outcome ended)
    (hbase : (machine cfg).Reach earlier origin first) :
    (machine cfg).Reach anyStep origin ended := by
  have harrival : (machine cfg).step first (.start id req) =
      some (first.startCall (machine cfg) id req) := by
    simp only [Machine.step, hstepped.arrives]
  exact ((hbase.mono fun _ _ _ => trivial).step trivial harrival).trans
    (hstepped.alone.mono fun _ _ _ => trivial)

section Flows

variable {before : Store} {trace : History}

/-- A flow whose outcome is passed on. -/
theorem runs_outcome {A : Type} {flow : Stores.Flow A}
    {result : Except GoError A} {wrap : Except GoError A → Outcome}
    (hwrap : Function.Injective wrap) :
    Runs (performs cfg permits)
        (flow.run >>= fun outcome => pure (wrap outcome)) before trace
        (wrap result) after ↔
      Runs (performs cfg permits) flow.run before trace result after := by
  rw [runs_bind]
  constructor
  · rintro ⟨found, middle, first, second, hflow, ⟨rfl, hfound, rfl⟩, rfl⟩
    rw [hwrap hfound]
    exact hflow
  · intro hflow
    exact ⟨result, after, trace, [], hflow, ⟨rfl, rfl, rfl⟩, rfl⟩

theorem runs_requestOTP {phone clientIP : String}
    {result : Except GoError RequestOTPResult} :
    Runs (performs cfg permits) (program cfg (.requestOTP phone clientIP))
        before trace (.requestOTP result) after ↔
      Runs (performs cfg permits) (requestOTP cfg phone clientIP).run before
        trace result after :=
  runs_outcome fun _ _ heq => Outcome.requestOTP.inj heq

theorem runs_verifyOTP {phone otpCandidate deviceID : String}
    {result : Except GoError VerifyOTPResult} :
    Runs (performs cfg permits)
        (program cfg (.verifyOTP phone otpCandidate deviceID)) before trace
        (.verifyOTP result) after ↔
      Runs (performs cfg permits)
        (verifyOTP cfg phone otpCandidate deviceID).run before trace result
        after :=
  runs_outcome fun _ _ heq => Outcome.verifyOTP.inj heq

theorem runs_refreshTokens {accessToken refreshToken deviceID : String}
    {result : Except GoError RefreshResult} :
    Runs (performs cfg permits)
        (program cfg (.refreshTokens accessToken refreshToken deviceID)) before
        trace (.refreshTokens result) after ↔
      Runs (performs cfg permits)
        (refreshTokens cfg accessToken refreshToken deviceID).run before trace
        result after :=
  runs_outcome fun _ _ heq => Outcome.refreshTokens.inj heq

end Flows

section Computed

/-- Whatever may fail. -/
def anyChoice (_ : Choice) : Prop := True

instance : DecidablePred anyChoice := fun _ => isTrue trivial

instance : DecidablePred Choice.unfaulted := by
  intro choice
  unfold Choice.unfaulted
  split <;> infer_instance

/-- The outcome of a call that has returned. -/
def outcomeAt (pool : Pool) (id : ℕ) : Option Outcome :=
  (pool.calls.lookup id).bind fun call =>
    match call.rest with
    | .pure outcome => some outcome
    | .call _ _ => none

theorem rest_of_outcomeAt {pool : Pool} {call : Call}
    (hcall : pool.calls.lookup id = some call)
    (houtcome : outcomeAt pool id = some outcome) :
    call.rest = .pure outcome := by
  rw [outcomeAt, hcall, Option.bind_some] at houtcome
  split at houtcome
  · next found hrest =>
      cases houtcome
      exact hrest
  · cases houtcome

/-- A run of nothing but the call, in which it has returned. -/
theorem stepped_of_outcomeAt (harrives : first.calls.lookup id = none)
    (halone : (machine cfg).Reach (onlyCall id permits)
      (first.startCall (machine cfg) id req) ended)
    (houtcome : outcomeAt ended id = some outcome) :
    ∃ history, Stepped cfg permits first id req history outcome ended := by
  have hcall : (first.startCall (machine cfg) id req).calls.lookup id =
      some ⟨req, [], program cfg req⟩ := AList.lookup_insert _
  obtain ⟨performed, rest, hlookup, -⟩ := runs_of_reach halone hcall
  have hrest : rest = .pure outcome := rest_of_outcomeAt hlookup houtcome
  rw [hrest] at hlookup
  exact ⟨_, harrives, halone, hlookup⟩

/-- The pool after call `id` has been served with the given choices. -/
def served (cfg : AuthServiceConfig) (permits : Choice → Prop)
    [DecidablePred permits] (first : Pool) (id : ℕ) (req : Request)
    (choices : List Choice) : Pool :=
  (machine cfg).runTo (onlyCall id permits)
    (first.startCall (machine cfg) id req) (choices.map (.exec id))

theorem stepped_served [DecidablePred permits] {choices : List Choice}
    (harrives : first.calls.lookup id = none)
    (houtcome : outcomeAt (served cfg permits first id req choices) id =
      some outcome) :
    ∃ history, Stepped cfg permits first id req history outcome
      (served cfg permits first id req choices) :=
  stepped_of_outcomeAt harrives (Machine.reach_runTo _) houtcome

/-- An outcome that is read off by one of the functions below. -/
theorem outcome_of_bind {A : Type} {read : Outcome → Option A}
    {wrap : A → Outcome}
    (hread : ∀ outcome value, read outcome = some value → outcome = wrap value)
    {found : Option Outcome} {value : A}
    (hvalue : found.bind read = some value) : found = some (wrap value) := by
  obtain ⟨outcome, rfl, houtcome⟩ := Option.bind_eq_some_iff.mp hvalue
  rw [hread outcome value houtcome]

/-- What a successful request for a code has returned. -/
def requestResult : Outcome → Option RequestOTPResult
  | .requestOTP (.ok result) => some result
  | _ => none

theorem eq_of_requestResult (outcome : Outcome) (result : RequestOTPResult)
    (hresult : requestResult outcome = some result) :
    outcome = .requestOTP (.ok result) := by
  unfold requestResult at hresult
  split at hresult <;> cases hresult
  rfl

/-- What a successful verification has returned. -/
def verifyResult : Outcome → Option VerifyOTPResult
  | .verifyOTP (.ok result) => some result
  | _ => none

theorem eq_of_verifyResult (outcome : Outcome) (result : VerifyOTPResult)
    (hresult : verifyResult outcome = some result) :
    outcome = .verifyOTP (.ok result) := by
  unfold verifyResult at hresult
  split at hresult <;> cases hresult
  rfl

/-- The sentinel that a verification was refused with. -/
def verifyRefusal : Outcome → Option Sentinel
  | .verifyOTP (.error (.sentinel sentinel)) => some sentinel
  | _ => none

theorem eq_of_verifyRefusal (outcome : Outcome) (sentinel : Sentinel)
    (hrefusal : verifyRefusal outcome = some sentinel) :
    outcome = .verifyOTP (.error (.sentinel sentinel)) := by
  unfold verifyRefusal at hrefusal
  split at hrefusal <;> cases hrefusal
  rfl

/-- What a successful refresh has returned. -/
def rotationReturned : Outcome → Option RefreshResult
  | .refreshTokens (.ok result) => some result
  | _ => none

theorem eq_of_rotationReturned (outcome : Outcome) (result : RefreshResult)
    (hresult : rotationReturned outcome = some result) :
    outcome = .refreshTokens (.ok result) := by
  unfold rotationReturned at hresult
  split at hresult <;> cases hresult
  rfl

end Computed

end MessagingPlatform.SingleSteps
