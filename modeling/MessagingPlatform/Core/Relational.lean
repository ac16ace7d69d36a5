import MessagingPlatform.Core.Interleaving

/-!
# Two runs side by side

Two programs are related if they request the same operations for as long as
they get responses that agree, and return related values.  Two runs of a
machine that take the same steps, up to choices under which the responses
agree, keep equal stores and related calls, whatever the interleaving.
-/

namespace MessagingPlatform.Relational

open Program
open Interleaving

variable {State Op : Type} {Res : Op → Type} {A A' B B' : Type}

/-- The programs request the same operations and return related values when
the responses agree. -/
inductive Related (agree : (op : Op) → Res op → Res op → Prop)
    (post : A → A' → Prop) : Prog Op Res A → Prog Op Res A' → Prop
  | pure {left : A} {right : A'} (hpost : post left right) :
      Related agree post (.pure left) (.pure right)
  | call {op : Op} {left : Res op → Prog Op Res A}
      {right : Res op → Prog Op Res A'}
      (hnext : ∀ response response', agree op response response' →
        Related agree post (left response) (right response')) :
      Related agree post (.call op left) (.call op right)

section Programs

variable {agree : (op : Op) → Res op → Res op → Prop}
variable {post : A → A' → Prop} {later : B → B' → Prop}

theorem Related.bind {left : Prog Op Res A} {right : Prog Op Res A'}
    {leftNext : A → Prog Op Res B} {rightNext : A' → Prog Op Res B'}
    (hrelated : Related agree post left right)
    (hnext : ∀ value value', post value value' →
      Related agree later (leftNext value) (rightNext value')) :
    Related agree later (left >>= leftNext) (right >>= rightNext) := by
  induction hrelated with
  | pure hpost => exact hnext _ _ hpost
  | call _ ih =>
      refine .call ?_
      intro response response' hagree
      exact ih response response' hagree

theorem related_perform (op : Op) :
    Related agree (agree op) (Prog.perform op : Prog Op Res (Res op))
      (Prog.perform op) :=
  .call fun _ _ hagree => .pure hagree

end Programs

section Failing

variable {Err : Type}

/-- Results of the same kind: related values, or related errors. -/
inductive SameResult (sameError : Err → Err → Prop) (post : A → A' → Prop) :
    Except Err A → Except Err A' → Prop
  | ok {left : A} {right : A'} (hpost : post left right) :
      SameResult sameError post (.ok left) (.ok right)
  | error {left right : Err} (hsame : sameError left right) :
      SameResult sameError post (.error left) (.error right)

/-- Related programs that may fail. -/
def RelatedFlow (agree : (op : Op) → Res op → Res op → Prop)
    (sameError : Err → Err → Prop) (post : A → A' → Prop)
    (left : ExceptT Err (Prog Op Res) A)
    (right : ExceptT Err (Prog Op Res) A') : Prop :=
  Related agree (SameResult sameError post) left.run right.run

variable {agree : (op : Op) → Res op → Res op → Prop}
variable {sameError : Err → Err → Prop}
variable {post : A → A' → Prop} {later : B → B' → Prop}

theorem RelatedFlow.bind {left : ExceptT Err (Prog Op Res) A}
    {right : ExceptT Err (Prog Op Res) A'}
    {leftNext : A → ExceptT Err (Prog Op Res) B}
    {rightNext : A' → ExceptT Err (Prog Op Res) B'}
    (hrelated : RelatedFlow agree sameError post left right)
    (hnext : ∀ value value', post value value' →
      RelatedFlow agree sameError later (leftNext value) (rightNext value')) :
    RelatedFlow agree sameError later (left >>= leftNext)
      (right >>= rightNext) := by
  unfold RelatedFlow
  rw [ExceptT.run_bind, ExceptT.run_bind]
  refine Related.bind hrelated ?_
  rintro _ _ (hpost | hsame)
  · exact hnext _ _ hpost
  · exact .pure (.error hsame)

theorem relatedFlow_pure {left : A} {right : A'} (hpost : post left right) :
    RelatedFlow agree sameError post
      (pure left : ExceptT Err (Prog Op Res) A) (pure right) :=
  .pure (.ok hpost)

theorem relatedFlow_throw {left right : Err} (hsame : sameError left right) :
    RelatedFlow agree sameError post
      (throw left : ExceptT Err (Prog Op Res) A) (throw right) :=
  .pure (.error hsame)

theorem relatedFlow_lift {left : Prog Op Res A} {right : Prog Op Res A'}
    (hrelated : Related agree post left right) :
    RelatedFlow agree sameError post (ExceptT.lift left)
      (ExceptT.lift right) :=
  Related.bind hrelated fun _ _ hpost => .pure (.ok hpost)

end Failing

section Machines

variable {Choice Env Req Out : Type}

/-- The same step, up to the choice of the environment for the operation that
it performs. -/
def SameLabel (same : Op → Choice → Choice → Prop)
    (pool : Pool State Op Res Req Out) :
    Label Choice Env Req → Label Choice Env Req → Prop
  | .start id req, .start id' req' => id = id' ∧ req = req'
  | .exec id choice, .exec id' choice' =>
      id = id' ∧ ∀ op, pool.nextOp id = some op → same op choice choice'
  | .env change, .env change' => change = change'
  | _, _ => False

/-- The pools that two runs in step with each other reach. -/
inductive Paired (machine : Machine State Op Res Choice Env Req Out)
    (same : Op → Choice → Choice → Prop) (first : Pool State Op Res Req Out) :
    Pool State Op Res Req Out → Pool State Op Res Req Out → Prop
  | refl : Paired machine same first first first
  | step {left right leftNext rightNext : Pool State Op Res Req Out}
      {label label' : Label Choice Env Req}
      (hpaired : Paired machine same first left right)
      (hlabel : SameLabel same left label label')
      (hleft : machine.step left label = some leftNext)
      (hright : machine.step right label' = some rightNext) :
      Paired machine same first leftNext rightNext

/-- The calls have been asked the same and will return related values. -/
structure SameCall (agree : (op : Op) → Res op → Res op → Prop)
    (post : Out → Out → Prop) (left right : Call Op Res Req Out) : Prop where
  req : left.req = right.req
  rest : Related agree post left.rest right.rest

/-- Equal stores and related calls. -/
structure Alike (agree : (op : Op) → Res op → Res op → Prop)
    (post : Out → Out → Prop) (left right : Pool State Op Res Req Out) :
    Prop where
  store : left.store = right.store
  calls : ∀ id, Option.Rel (SameCall agree post) (left.calls.lookup id)
    (right.calls.lookup id)

variable {machine : Machine State Op Res Choice Env Req Out}
variable {same : Op → Choice → Choice → Prop}
variable {agree : (op : Op) → Res op → Res op → Prop}
variable {post : Out → Out → Prop}
variable {first left right : Pool State Op Res Req Out}

theorem Alike.insert {leftStore rightStore : State}
    {leftLog rightLog : List (Event State Op Res)}
    {leftCall rightCall : Call Op Res Req Out} (id : ℕ)
    (halike : Alike agree post left right) (hstore : leftStore = rightStore)
    (hcall : SameCall agree post leftCall rightCall) :
    Alike agree post ⟨leftStore, left.calls.insert id leftCall, leftLog⟩
      ⟨rightStore, right.calls.insert id rightCall, rightLog⟩ where
  store := hstore
  calls := by
    intro other
    by_cases hother : other = id
    · subst other
      rw [AList.lookup_insert, AList.lookup_insert]
      exact .some hcall
    · rw [AList.lookup_insert_ne hother, AList.lookup_insert_ne hother]
      exact halike.calls other

/-- A run is in step with itself. -/
theorem paired_of_reach
    {admissible : Pool State Op Res Req Out → Label Choice Env Req → Prop}
    {pool : Pool State Op Res Req Out}
    (hrefl : ∀ op choice, same op choice choice)
    (hreach : machine.Reach admissible first pool) :
    Paired machine same first pool pool := by
  induction hreach with
  | refl => exact .refl
  | @step current next label _ _ hstep ih =>
      have hlabel : SameLabel same current label label := by
        cases label with
        | start id req => exact ⟨rfl, rfl⟩
        | exec id choice => exact ⟨rfl, fun op _ => hrefl op choice⟩
        | env change => exact rfl
      exact ih.step hlabel hstep hstep

variable
    (hprogram : ∀ req,
      Related agree post (machine.program req) (machine.program req))
    (hperform : ∀ op choice choice' store response response' after after',
      same op choice choice' →
      machine.perform op choice store = some (response, after) →
      machine.perform op choice' store = some (response', after') →
        agree op response response' ∧ after = after')

include hprogram hperform

/-- One step of both runs. -/
theorem Alike.step {leftNext rightNext : Pool State Op Res Req Out}
    {label label' : Label Choice Env Req}
    (halike : Alike agree post left right)
    (hlabel : SameLabel same left label label')
    (hleft : machine.step left label = some leftNext)
    (hright : machine.step right label' = some rightNext) :
    Alike agree post leftNext rightNext := by
  rcases Machine.step_cases hleft with
    ⟨id, req, rfl, -, rfl⟩ |
    ⟨id, choice, call, op, next, response, after, rfl, hlookup, hrest, heffect,
      rfl⟩ | ⟨change, after, rfl, hadvance, rfl⟩
  · rcases Machine.step_cases hright with
      ⟨id', req', rfl, -, rfl⟩ | ⟨_, _, _, _, _, _, _, rfl, -⟩ |
      ⟨_, _, rfl, -⟩
    · obtain ⟨rfl, rfl⟩ := hlabel
      exact halike.insert id halike.store ⟨rfl, hprogram req⟩
    · exact hlabel.elim
    · exact hlabel.elim
  · rcases Machine.step_cases hright with
      ⟨_, _, rfl, -⟩ |
      ⟨id', choice', call', op', next', response', after', rfl, hlookup',
        hrest', heffect', rfl⟩ | ⟨_, _, rfl, -⟩
    · exact hlabel.elim
    · obtain ⟨rfl, hsame⟩ := hlabel
      have hop : left.nextOp id = some op := by
        simp [Pool.nextOp, Call.nextOp, hlookup, hrest]
      have hcalls := halike.calls id
      rw [hlookup, hlookup'] at hcalls
      cases hcalls with
      | some hcall =>
          have hrelated := hcall.rest
          rw [hrest, hrest'] at hrelated
          cases hrelated with
          | call hnext =>
              rw [← halike.store] at heffect'
              obtain ⟨hagree, hafter⟩ := hperform op choice choice' left.store
                response response' after after' (hsame op hop) heffect heffect'
              exact halike.insert id hafter
                ⟨hcall.req, hnext response response' hagree⟩
    · exact hlabel.elim
  · rcases Machine.step_cases hright with
      ⟨_, _, rfl, -⟩ | ⟨_, _, _, _, _, _, _, rfl, -⟩ |
      ⟨change', after', rfl, hadvance', rfl⟩
    · exact hlabel.elim
    · exact hlabel.elim
    · obtain rfl := hlabel
      rw [← halike.store, hadvance, Option.some.injEq] at hadvance'
      exact ⟨hadvance', halike.calls⟩

/-- Runs in step with each other stay alike. -/
theorem Paired.alike (hfirst : Alike agree post first first)
    (hpaired : Paired machine same first left right) :
    Alike agree post left right := by
  induction hpaired with
  | refl => exact hfirst
  | step _ hlabel hleft hright ih =>
      exact ih.step hprogram hperform hlabel hleft hright

end Machines

end MessagingPlatform.Relational
