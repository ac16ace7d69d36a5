import MessagingPlatform.Core.Interleaving

/-!
# Programs as single steps

`Runs performs program before trace value after`: started in `before` and left
alone, the program may perform the operations of `trace`, return `value` and
leave `after`.  What an operation may do is a relation, so that the
environment keeps its choices.  `Ends` forgets the trace; its rules are
equivalences by which a program is taken apart.  `Certain` is the case of one
possible ending, by which a program is executed.

`reach_iff_runs` says what this has to do with machines: these are the runs in
which nothing happens but the operations of one call.
-/

namespace MessagingPlatform.OneStep

open Program
open Interleaving

variable {State Op : Type} {Res : Op → Type} {A B : Type}

/-- The program, run as one step, with all that it has performed, newest
first. -/
def Runs (performs : (op : Op) → State → Res op → State → Prop) :
    Prog Op Res A → State → History Op Res → A → State → Prop
  | .pure result, before, trace, value, after =>
      trace = [] ∧ value = result ∧ after = before
  | .call op next, before, trace, value, after =>
      ∃ response middle rest, performs op before response middle ∧
        Runs performs (next response) middle rest value after ∧
        trace = rest ++ [⟨op, response⟩]

variable {performs : (op : Op) → State → Res op → State → Prop}
variable {before after : State} {trace : History Op Res}

section Rules

theorem runs_pure {result value : A} :
    Runs performs (Prog.pure result) before trace value after ↔
      trace = [] ∧ value = result ∧ after = before := Iff.rfl

theorem runs_perform {op : Op} {value : Res op} :
    Runs performs (Prog.perform op) before trace value after ↔
      performs op before value after ∧ trace = [⟨op, value⟩] := by
  constructor
  · rintro ⟨response, middle, rest, hperforms, ⟨rfl, rfl, rfl⟩, rfl⟩
    exact ⟨hperforms, rfl⟩
  · rintro ⟨hperforms, rfl⟩
    exact ⟨value, after, [], hperforms, ⟨rfl, rfl, rfl⟩, rfl⟩

/-- Sequential composition. -/
theorem runs_bind {program : Prog Op Res A} {continueWith : A → Prog Op Res B}
    {value : B} :
    Runs performs (program >>= continueWith) before trace value after ↔
      ∃ found middle first second,
        Runs performs program before first found middle ∧
        Runs performs (continueWith found) middle second value after ∧
        trace = second ++ first := by
  induction program generalizing before trace with
  | pure result =>
      constructor
      · intro hruns
        exact ⟨result, before, [], trace, ⟨rfl, rfl, rfl⟩, hruns, by simp⟩
      · rintro ⟨found, middle, first, second, ⟨rfl, rfl, rfl⟩, hruns, rfl⟩
        simpa using hruns
  | call op next ih =>
      constructor
      · rintro ⟨response, middle, rest, hperforms, hruns, rfl⟩
        obtain ⟨found, later, first, second, hfirst, hsecond, rfl⟩ :=
          ih response |>.mp hruns
        exact ⟨found, later, first ++ [⟨op, response⟩], second,
          ⟨response, middle, first, hperforms, hfirst, rfl⟩, hsecond,
          by simp⟩
      · rintro ⟨found, later, first, second,
          ⟨response, middle, rest, hperforms, hfirst, rfl⟩, hsecond, rfl⟩
        exact ⟨response, middle, second ++ rest, hperforms,
          (ih response).mpr ⟨found, later, rest, second, hfirst, hsecond,
            rfl⟩, by simp⟩

/-- What the history logic says of a program holds of its trace. -/
theorem Runs.post {guard : History Op Res → Op → Prop}
    {post : History Op Res → A → Prop} {program : Prog Op Res A}
    {history : History Op Res} {value : A}
    (hruns : Runs performs program before trace value after)
    (hsat : Sat guard post program history) :
    post (trace ++ history) value := by
  induction program generalizing before trace history with
  | pure result =>
      obtain ⟨rfl, rfl, rfl⟩ := hruns
      exact hsat
  | call op next ih =>
      obtain ⟨response, middle, rest, -, hrest, rfl⟩ := hruns
      have hpost := ih response hrest (hsat.2 response)
      simpa using hpost

/-- A property of the state that the operations which the program is allowed
keep. -/
theorem Runs.keeps {I : State → Prop} {guard : Op → Prop}
    {program : Prog Op Res A} {value : A} {history : History Op Res}
    (hruns : Runs performs program before trace value after)
    (hsat : Sat (fun _ op => guard op) (fun _ _ => True) program history)
    (hstep : ∀ op state response next, guard op →
      performs op state response next → I state → I next)
    (hbefore : I before) :
    I after ∧ ∀ entry ∈ trace, guard entry.1 := by
  induction program generalizing before trace history with
  | pure result =>
      obtain ⟨rfl, -, rfl⟩ := hruns
      exact ⟨hbefore, by simp⟩
  | call op next ih =>
      obtain ⟨response, middle, rest, hperforms, hrest, rfl⟩ := hruns
      obtain ⟨hafter, hentries⟩ := ih response hrest (hsat.2 response)
        (hstep op before response middle hsat.1 hperforms hbefore)
      refine ⟨hafter, fun entry hentry => ?_⟩
      rcases List.mem_append.mp hentry with hlater | hfirst
      · exact hentries entry hlater
      · rw [List.mem_singleton.mp hfirst]
        exact hsat.1

end Rules

section Endings

/-- The program, run as one step, whatever it performs. -/
def Ends (performs : (op : Op) → State → Res op → State → Prop)
    (program : Prog Op Res A) (before : State) (value : A) (after : State) :
    Prop :=
  ∃ trace, Runs performs program before trace value after

theorem ends_pure {result value : A} :
    Ends performs (Prog.pure result) before value after ↔
      value = result ∧ after = before := by
  simp [Ends, runs_pure]

theorem ends_perform {op : Op} {value : Res op} :
    Ends performs (Prog.perform op) before value after ↔
      performs op before value after := by
  simp [Ends, runs_perform]

theorem ends_bind {program : Prog Op Res A} {continueWith : A → Prog Op Res B}
    {value : B} :
    Ends performs (program >>= continueWith) before value after ↔
      ∃ found middle, Ends performs program before found middle ∧
        Ends performs (continueWith found) middle value after := by
  constructor
  · rintro ⟨trace, hruns⟩
    obtain ⟨found, middle, first, second, hfirst, hsecond, -⟩ :=
      runs_bind.mp hruns
    exact ⟨found, middle, ⟨first, hfirst⟩, second, hsecond⟩
  · rintro ⟨found, middle, ⟨first, hfirst⟩, second, hsecond⟩
    exact ⟨second ++ first,
      runs_bind.mpr ⟨found, middle, first, second, hfirst, hsecond, rfl⟩⟩

/-- The one way in which the program can end. -/
def Certain (performs : (op : Op) → State → Res op → State → Prop)
    (program : Prog Op Res A) (before : State) (value : A) (after : State) :
    Prop :=
  ∀ found reached, Ends performs program before found reached ↔
    found = value ∧ reached = after

theorem Certain.ends {program : Prog Op Res A} {value : A}
    (hcertain : Certain performs program before value after) :
    Ends performs program before value after :=
  (hcertain value after).mpr ⟨rfl, rfl⟩

theorem certain_pure {result : A} :
    Certain performs (Prog.pure result) before result before :=
  fun _ _ => ends_pure

/-- After a program with one ending its continuation is executed. -/
theorem Certain.bind {program : Prog Op Res A}
    {continueWith : A → Prog Op Res B} {found : A} {value : B}
    {middle : State}
    (hcertain : Certain performs program before found middle) :
    Ends performs (program >>= continueWith) before value after ↔
      Ends performs (continueWith found) middle value after := by
  rw [ends_bind]
  constructor
  · rintro ⟨other, reached, hfirst, hsecond⟩
    obtain ⟨rfl, rfl⟩ := (hcertain other reached).mp hfirst
    exact hsecond
  · intro hsecond
    exact ⟨found, middle, hcertain.ends, hsecond⟩

end Endings

section Failing

variable {Err : Type}

/-- Composition of fallible programs: an error skips the continuation. -/
theorem ends_run_bind {program : ExceptT Err (Prog Op Res) A}
    {continueWith : A → ExceptT Err (Prog Op Res) B} {outcome : Except Err B} :
    Ends performs (program >>= continueWith).run before outcome after ↔
      (∃ err, Ends performs program.run before (.error err) after ∧
        outcome = .error err) ∨
      ∃ value middle, Ends performs program.run before (.ok value) middle ∧
        Ends performs (continueWith value).run middle outcome after := by
  rw [ExceptT.run_bind, ends_bind]
  constructor
  · rintro ⟨err | value, middle, hfirst, hsecond⟩
    · obtain ⟨rfl, rfl⟩ := ends_pure.mp hsecond
      exact .inl ⟨err, hfirst, rfl⟩
    · exact .inr ⟨value, middle, hfirst, hsecond⟩
  · rintro (⟨err, hfirst, rfl⟩ | ⟨value, middle, hfirst, hsecond⟩)
    · exact ⟨.error err, after, hfirst, ends_pure.mpr ⟨rfl, rfl⟩⟩
    · exact ⟨.ok value, middle, hfirst, hsecond⟩

theorem ends_run_bind_ok {program : ExceptT Err (Prog Op Res) A}
    {continueWith : A → ExceptT Err (Prog Op Res) B} {value : B} :
    Ends performs (program >>= continueWith).run before (.ok value) after ↔
      ∃ found middle, Ends performs program.run before (.ok found) middle ∧
        Ends performs (continueWith found).run middle (.ok value) after := by
  rw [ends_run_bind]
  simp

/-- The same, with what is performed. -/
theorem runs_run_bind_ok {program : ExceptT Err (Prog Op Res) A}
    {continueWith : A → ExceptT Err (Prog Op Res) B} {value : B} :
    Runs performs (program >>= continueWith).run before trace (.ok value)
        after ↔
      ∃ found middle first second,
        Runs performs program.run before first (.ok found) middle ∧
        Runs performs (continueWith found).run middle second (.ok value)
          after ∧ trace = second ++ first := by
  rw [ExceptT.run_bind, runs_bind]
  constructor
  · rintro ⟨err | found, middle, first, second, hfirst, hsecond, rfl⟩
    · obtain ⟨-, hvalue, -⟩ := runs_pure.mp hsecond
      cases hvalue
    · exact ⟨found, middle, first, second, hfirst, hsecond, rfl⟩
  · rintro ⟨found, middle, first, second, hfirst, hsecond, rfl⟩
    exact ⟨.ok found, middle, first, second, hfirst, hsecond, rfl⟩

theorem certain_run_pure {value : A} :
    Certain performs (pure value : ExceptT Err (Prog Op Res) A).run before
      (.ok value) before :=
  certain_pure

theorem certain_run_throw {err : Err} :
    Certain performs (throw err : ExceptT Err (Prog Op Res) A).run before
      (.error err) before :=
  certain_pure

theorem ends_run_lift {program : Prog Op Res A} {outcome : Except Err A} :
    Ends performs (ExceptT.lift program : ExceptT Err (Prog Op Res) A).run
        before outcome after ↔
      ∃ value, Ends performs program before value after ∧
        outcome = .ok value := by
  change Ends performs (program >>= fun value => pure (.ok value)) before
    outcome after ↔ _
  rw [ends_bind]
  constructor
  · rintro ⟨value, middle, hends, hpure⟩
    obtain ⟨rfl, rfl⟩ := ends_pure.mp hpure
    exact ⟨value, hends, rfl⟩
  · rintro ⟨value, hends, rfl⟩
    exact ⟨value, after, hends, ends_pure.mpr ⟨rfl, rfl⟩⟩

theorem Certain.run_lift {program : Prog Op Res A} {value : A}
    (hcertain : Certain performs program before value after) :
    Certain performs (ExceptT.lift program : ExceptT Err (Prog Op Res) A).run
      before (.ok value) after := by
  intro outcome reached
  rw [ends_run_lift]
  constructor
  · rintro ⟨found, hends, rfl⟩
    obtain ⟨rfl, rfl⟩ := (hcertain found reached).mp hends
    exact ⟨rfl, rfl⟩
  · rintro ⟨rfl, rfl⟩
    exact ⟨value, hcertain.ends, rfl⟩

/-- After success the continuation is executed. -/
theorem Certain.run_bind {program : ExceptT Err (Prog Op Res) A}
    {continueWith : A → ExceptT Err (Prog Op Res) B} {found : A}
    {outcome : Except Err B} {middle : State}
    (hcertain : Certain performs program.run before (.ok found) middle) :
    Ends performs (program >>= continueWith).run before outcome after ↔
      Ends performs (continueWith found).run middle outcome after := by
  rw [ExceptT.run_bind, hcertain.bind]

theorem Certain.run_bind_certain {program : ExceptT Err (Prog Op Res) A}
    {continueWith : A → ExceptT Err (Prog Op Res) B} {found : A}
    {outcome : Except Err B} {middle : State}
    (hcertain : Certain performs program.run before (.ok found) middle)
    (hnext : Certain performs (continueWith found).run middle outcome after) :
    Certain performs (program >>= continueWith).run before outcome after :=
  fun other reached => hcertain.run_bind.trans (hnext other reached)

/-- After an error it is not. -/
theorem Certain.run_bind_error {program : ExceptT Err (Prog Op Res) A}
    {continueWith : A → ExceptT Err (Prog Op Res) B} {err : Err}
    (hcertain : Certain performs program.run before (.error err) after) :
    Certain performs (program >>= continueWith).run before (.error err)
      after := by
  intro outcome reached
  rw [ExceptT.run_bind, hcertain.bind]
  exact ends_pure

end Failing

section Machines

variable {Choice Env Req Out : Type}
variable {machine : Machine State Op Res Choice Env Req Out}
variable {permits : Choice → Prop} {id : ℕ}
variable {pool : Pool State Op Res Req Out} {call : Call Op Res Req Out}

/-- Nothing happens but the operations of call `id`, each as `permits`
allows. -/
def onlyCall (id : ℕ) (permits : Choice → Prop)
    (_ : Pool State Op Res Req Out) : Label Choice Env Req → Prop
  | .exec other choice => other = id ∧ permits choice
  | _ => False

instance (call : ℕ) (permits : Choice → Prop) [DecidablePred permits]
    (pool : Pool State Op Res Req Out) (label : Label Choice Env Req) :
    Decidable (onlyCall call permits pool label) :=
  match label with
  | .start _ _ => isFalse not_false
  | .env _ => isFalse not_false
  | .exec other choice =>
      inferInstanceAs (Decidable (other = call ∧ permits choice))

/-- What the operations of a machine may do under permitted choices. -/
def permitted (machine : Machine State Op Res Choice Env Req Out)
    (permits : Choice → Prop) (op : Op) (before : State) (response : Res op)
    (after : State) : Prop :=
  ∃ choice, permits choice ∧
    machine.perform op choice before = some (response, after)

/-- What has been performed so far comes before what is still to do. -/
theorem runs_of_reach {ended : Pool State Op Res Req Out}
    (hreach : machine.Reach (onlyCall id permits) pool ended)
    (hcall : pool.calls.lookup id = some call) :
    ∃ performed rest,
      ended.calls.lookup id =
        some ⟨call.req, performed ++ call.history, rest⟩ ∧
      ∀ trace value after,
        Runs (permitted machine permits) rest ended.store trace value after →
        Runs (permitted machine permits) call.rest pool.store
          (trace ++ performed) value after := by
  induction hreach with
  | refl =>
      refine ⟨[], call.rest, hcall, fun trace value after hruns => ?_⟩
      rw [List.append_nil]
      exact hruns
  | @step current next label hreach hadmissible hstep ih =>
      obtain ⟨performed, rest, hlookup, hrest⟩ := ih
      rcases Machine.step_cases hstep with ⟨other, req, rfl, -, -⟩ |
        ⟨other, choice, found, op, continueWith, response, after, rfl, hfound,
          hprogram, hperform, rfl⟩ | ⟨change, after, rfl, -, -⟩
      · exact hadmissible.elim
      · obtain ⟨rfl, hpermits⟩ := hadmissible
        rw [hlookup, Option.some.injEq] at hfound
        subst hfound
        refine ⟨⟨op, response⟩ :: performed, continueWith response,
          AList.lookup_insert _, fun trace value last hruns => ?_⟩
        have hwhole := hrest (trace ++ [⟨op, response⟩]) value last
        rw [show rest = .call op continueWith from hprogram] at hwhole
        have hmore := hwhole ⟨response, after, trace,
          ⟨choice, hpermits, hperform⟩, hruns, rfl⟩
        rwa [List.append_assoc] at hmore
      · exact hadmissible.elim

theorem reach_of_runs {trace : History Op Res} {value : Out} {after : State}
    (hcall : pool.calls.lookup id = some call)
    (hruns : Runs (permitted machine permits) call.rest pool.store trace value
      after) :
    ∃ ended, machine.Reach (onlyCall id permits) pool ended ∧
      ended.calls.lookup id =
        some ⟨call.req, trace ++ call.history, .pure value⟩ ∧
      ended.store = after := by
  -- Induction on the program that the call still has to run.
  obtain ⟨req, history, rest⟩ := call
  induction rest generalizing pool trace history with
  | pure result =>
      obtain ⟨rfl, rfl, rfl⟩ := hruns
      exact ⟨pool, .refl, hcall, rfl⟩
  | call op continueWith ih =>
      obtain ⟨response, middle, rest, ⟨choice, hpermits, hperform⟩, hrest,
        rfl⟩ := hruns
      have hstep : machine.step pool (.exec id choice) =
          some (pool.execCall id ⟨req, history, .call op continueWith⟩ op
            continueWith response middle) := by
        simp only [Machine.step, hcall, hperform]
      have hfound : (pool.execCall id ⟨req, history, .call op continueWith⟩ op
          continueWith response middle).calls.lookup id =
          some ⟨req, ⟨op, response⟩ :: history, continueWith response⟩ :=
        AList.lookup_insert _
      obtain ⟨ended, hreach, hlookup, hstore⟩ :=
        ih response _ hfound hrest
      refine ⟨ended, ?_, ?_, hstore⟩
      · exact (Machine.Reach.step .refl ⟨rfl, hpermits⟩ hstep).trans hreach
      · rw [hlookup, List.append_assoc]
        rfl

/-- A call that runs uninterrupted is a program run as one step. -/
theorem reach_iff_runs {trace : History Op Res} {value : Out} {after : State}
    (hcall : pool.calls.lookup id = some call) :
    (∃ ended, machine.Reach (onlyCall id permits) pool ended ∧
      ended.calls.lookup id =
        some ⟨call.req, trace ++ call.history, .pure value⟩ ∧
      ended.store = after) ↔
    Runs (permitted machine permits) call.rest pool.store trace value
      after := by
  constructor
  · rintro ⟨ended, hreach, hended, rfl⟩
    obtain ⟨performed, rest, hlookup, hrest⟩ := runs_of_reach hreach hcall
    rw [hended, Option.some.injEq, Call.mk.injEq] at hlookup
    obtain ⟨-, hperformed, rfl⟩ := hlookup
    obtain rfl := List.append_cancel_right hperformed
    exact hrest [] value ended.store ⟨rfl, rfl, rfl⟩
  · exact reach_of_runs hcall

end Machines

end MessagingPlatform.OneStep
