import Mathlib

/-!
# Programs over an effect signature

A program is a finite tree of effect requests.  Each node names the operation
it asks the environment to perform and continues with the response.  The tree
fixes the order of the requests and nothing else: what a response may be is
the business of the environment that performs it.

The second half is a history logic.  A guard says which operation a program
may request after a given history of requests and responses, a post-condition
says what holds of the history when it returns.  Both speak about the
program's own history only, so they are insensitive to whatever other programs
do in between.
-/

namespace MessagingPlatform.Program

variable {Op : Type} {Res : Op → Type} {A B : Type}

/-- A program that requests operations of `Op` and returns a value. -/
inductive Prog (Op : Type) (Res : Op → Type) (A : Type) where
  | pure (value : A)
  | call (op : Op) (next : Res op → Prog Op Res A)

namespace Prog

def bind : Prog Op Res A → (A → Prog Op Res B) → Prog Op Res B
  | .pure value, continueWith => continueWith value
  | .call op next, continueWith =>
      .call op fun response => (next response).bind continueWith

instance : Monad (Prog Op Res) where
  pure := Prog.pure
  bind := Prog.bind

/-- Request one operation and return its response. -/
def perform (op : Op) : Prog Op Res (Res op) :=
  .call op .pure

@[simp]
theorem bind_pure_eq (value : A) (continueWith : A → Prog Op Res B) :
    ((Prog.pure value : Prog Op Res A) >>= continueWith) =
      continueWith value := rfl

@[simp]
theorem bind_call_eq (op : Op) (next : Res op → Prog Op Res A)
    (continueWith : A → Prog Op Res B) :
    (Prog.call op next >>= continueWith) =
      Prog.call op fun response => next response >>= continueWith := rfl

/-- What a program returns when it runs alone, each operation being performed
in the state that the one before it left. -/
def evalOn {State : Type}
    (performOn : (op : Op) → State → Option (Res op × State)) :
    Prog Op Res A → State → Option A
  | .pure value, _ => some value
  | .call op next, state =>
      (performOn op state).bind fun performed =>
        (next performed.1).evalOn performOn performed.2

/-- What it returns, and the state that its last operation leaves. -/
def runOn {State : Type}
    (performOn : (op : Op) → State → Option (Res op × State)) :
    Prog Op Res A → State → Option (A × State)
  | .pure value, state => some (value, state)
  | .call op next, state =>
      (performOn op state).bind fun performed =>
        (next performed.1).runOn performOn performed.2

/-- Whether the program has returned. -/
def finished : Prog Op Res A → Bool
  | .pure _ => true
  | .call _ _ => false

end Prog

/-- One performed operation together with its response. -/
abbrev Entry (Op : Type) (Res : Op → Type) := (op : Op) × Res op

/-- The operations a program has performed so far, newest first. -/
abbrev History (Op : Type) (Res : Op → Type) := List (Entry Op Res)

/-- `Sat guard post program history`: continued after `history`, every
operation the program requests is allowed by `guard` at the history reached by
then, and every value it returns satisfies `post` there.  Responses are
unconstrained. -/
def Sat (guard : History Op Res → Op → Prop)
    (post : History Op Res → A → Prop) :
    Prog Op Res A → History Op Res → Prop
  | .pure value, history => post history value
  | .call op next, history =>
      guard history op ∧
        ∀ response, Sat guard post (next response) (⟨op, response⟩ :: history)

/-- Every operation of a history was allowed by `guard` when it was
performed. -/
def Conforms (guard : History Op Res → Op → Prop) : History Op Res → Prop
  | [] => True
  | entry :: older => guard older entry.1 ∧ Conforms guard older

section Rules

variable {guard : History Op Res → Op → Prop}
variable {post : History Op Res → A → Prop}

@[simp]
theorem sat_pure (value : A) (history : History Op Res) :
    Sat guard post (Prog.pure value) history ↔ post history value := Iff.rfl

@[simp]
theorem sat_monad_pure (value : A) (history : History Op Res) :
    Sat guard post (pure value : Prog Op Res A) history ↔
      post history value := Iff.rfl

@[simp]
theorem sat_call (op : Op) (next : Res op → Prog Op Res A)
    (history : History Op Res) :
    Sat guard post (Prog.call op next) history ↔
      guard history op ∧
        ∀ response, Sat guard post (next response)
          (⟨op, response⟩ :: history) := Iff.rfl

@[simp]
theorem sat_perform {op : Op} {post : History Op Res → Res op → Prop}
    (history : History Op Res) :
    Sat guard post (Prog.perform op) history ↔
      guard history op ∧
        ∀ response, post (⟨op, response⟩ :: history) response := Iff.rfl

/-- Sequential composition: the second program is judged at the history in
which the first one returned. -/
theorem sat_bind {post : History Op Res → B → Prop}
    (program : Prog Op Res A) (continueWith : A → Prog Op Res B)
    (history : History Op Res) :
    Sat guard post (program >>= continueWith) history ↔
      Sat guard (fun reached value =>
        Sat guard post (continueWith value) reached) program history := by
  induction program generalizing history with
  | pure value => rfl
  | call op next ih =>
      simp only [Prog.bind_call_eq, sat_call, ih]

/-- What always holds is satisfied by every program. -/
theorem sat_of_forall (hguard : ∀ older op, guard older op)
    (hpost : ∀ reached value, post reached value) (program : Prog Op Res A)
    (history : History Op Res) : Sat guard post program history := by
  induction program generalizing history with
  | pure value => exact hpost history value
  | call op next ih =>
      exact ⟨hguard history op, fun response => ih response _⟩

/-- The rule of consequence for the post-condition. -/
theorem Sat.mono {post' : History Op Res → A → Prop}
    {program : Prog Op Res A} {history : History Op Res}
    (hsat : Sat guard post program history)
    (hpost : ∀ reached value, post reached value → post' reached value) :
    Sat guard post' program history := by
  induction program generalizing history with
  | pure value => exact hpost history value hsat
  | call op next ih =>
      exact ⟨hsat.1, fun response => ih response (hsat.2 response)⟩

/-- The history in which a program returns extends the one it started in. -/
theorem Sat.extends {program : Prog Op Res A} {history : History Op Res}
    (hsat : Sat guard post program history) :
    Sat guard (fun reached value =>
      post reached value ∧ history <:+ reached) program history := by
  induction program generalizing history with
  | pure value => exact ⟨hsat, List.suffix_refl history⟩
  | call op next ih =>
      refine ⟨hsat.1, fun response => ?_⟩
      refine (ih response (hsat.2 response)).mono ?_
      rintro reached value ⟨hvalue, hsuffix⟩
      exact ⟨hvalue, (List.suffix_cons _ history).trans hsuffix⟩

/-- The rule of consequence for the guard. -/
theorem Sat.weaken {guard' : History Op Res → Op → Prop}
    {program : Prog Op Res A} {history : History Op Res}
    (hsat : Sat guard post program history)
    (hguard : ∀ older op, guard older op → guard' older op) :
    Sat guard' post program history := by
  induction program generalizing history with
  | pure value => exact hsat
  | call op next ih =>
      exact ⟨hguard history op hsat.1,
        fun response => ih response (hsat.2 response)⟩

/-- The history in which a program returns conforms to its guard. -/
theorem Sat.conforms {program : Prog Op Res A} {history : History Op Res}
    (hsat : Sat guard post program history)
    (hconforms : Conforms guard history) :
    Sat guard (fun reached value =>
      post reached value ∧ Conforms guard reached) program history := by
  induction program generalizing history with
  | pure value => exact ⟨hsat, hconforms⟩
  | call op next ih =>
      exact ⟨hsat.1, fun response =>
        ih response (hsat.2 response) ⟨hsat.1, hconforms⟩⟩

theorem Conforms.suffix {older history : History Op Res}
    (hconforms : Conforms guard history) (hsuffix : older <:+ history) :
    Conforms guard older := by
  induction history with
  | nil =>
      rw [List.suffix_nil.mp hsuffix]
      exact hconforms
  | cons entry rest ih =>
      rcases List.suffix_cons_iff.mp hsuffix with rfl | hrest
      · exact hconforms
      · exact ih hconforms.2 hrest

/-- An operation of a conforming history, with the history it was performed
in. -/
theorem Conforms.guard_of_mem {history : History Op Res}
    {entry : Entry Op Res} (hconforms : Conforms guard history)
    (hmem : entry ∈ history) :
    ∃ older, entry :: older <:+ history ∧ guard older entry.1 := by
  obtain ⟨newer, older, rfl⟩ := List.append_of_mem hmem
  have hsuffix : entry :: older <:+ newer ++ entry :: older :=
    List.suffix_append newer (entry :: older)
  exact ⟨older, hsuffix, (hconforms.suffix hsuffix).1⟩

end Rules

section Failing

variable {Err : Type}
variable {guard : History Op Res → Op → Prop}

/-- Composition of fallible programs: an error skips the continuation. -/
theorem sat_run_bind {post : History Op Res → Except Err B → Prop}
    (program : ExceptT Err (Prog Op Res) A)
    (continueWith : A → ExceptT Err (Prog Op Res) B)
    (history : History Op Res) :
    Sat guard post (program >>= continueWith).run history ↔
      Sat guard (fun reached outcome =>
        match outcome with
        | .ok value => Sat guard post (continueWith value).run reached
        | .error err => post reached (.error err)) program.run history := by
  rw [ExceptT.run_bind, sat_bind]
  constructor <;>
  · intro hsat
    refine hsat.mono ?_
    rintro reached (err | value) hreached <;> exact hreached

@[simp]
theorem sat_run_pure {post : History Op Res → Except Err A → Prop}
    (value : A) (history : History Op Res) :
    Sat guard post (pure value : ExceptT Err (Prog Op Res) A).run history ↔
      post history (.ok value) := Iff.rfl

@[simp]
theorem sat_run_throw {post : History Op Res → Except Err A → Prop}
    (err : Err) (history : History Op Res) :
    Sat guard post (throw err : ExceptT Err (Prog Op Res) A).run history ↔
      post history (.error err) := Iff.rfl

@[simp]
theorem sat_run_lift {post : History Op Res → Except Err A → Prop}
    (program : Prog Op Res A) (history : History Op Res) :
    Sat guard post (ExceptT.lift program : ExceptT Err (Prog Op Res) A).run
        history ↔
      Sat guard (fun reached value => post reached (.ok value)) program
        history := by
  change Sat guard post (program >>= fun value => pure (.ok value)) history ↔ _
  rw [sat_bind]
  rfl

end Failing

end MessagingPlatform.Program
