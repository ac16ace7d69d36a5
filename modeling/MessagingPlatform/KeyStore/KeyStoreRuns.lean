import MessagingPlatform.KeyStore.KeyStoreRules

/-!
# Runs of the key store

What an operation can do to the key store, what its answer says about it, and
the invariant rules that join both with the guard of the call.
-/

namespace MessagingPlatform.KeyStoreRuns

open Program
open Interleaving
open Instants
open Errors
open MessagingPlatform.Sequential
open AWSKeyStore
open KeyStoreRules

section Effects

/-- What an operation can do to the store. -/
inductive Effect (before : Store) : Entry → Store → Prop
  | kept {entry : Entry} (hkeeps : installs entry.1 = none) :
      Effect before entry before
  | constructed (privateKey currentKeyID : String) (publicKeys : KeyMap)
      (hnew : before.keyStore = none) :
      Effect before ⟨.newKeyStore privateKey currentKeyID publicKeys, ()⟩
        { before with
          keyStore := some
            { privateKey := some privateKey
              currentKeyID := currentKeyID
              publicKeys := publicKeys
              publicKeysLoadedAt := before.clock
              lastUnknownKidRefresh := zeroTime
              cacheTTL := defaultCacheTTL
              kidCooldown := defaultKidCooldown } }
  | refreshed (keyStore : KeyStore) (publicKeys : KeyMap)
      (hkeyStore : before.keyStore = some keyStore) :
      Effect before ⟨.setPublicKeys publicKeys, ()⟩
        (before.withPublicKeys keyStore publicKeys)
  | cooled (keyStore : KeyStore) (publicKeys : KeyMap) (nanoseconds : ℕ)
      (hkeyStore : before.keyStore = some keyStore) :
      Effect before ⟨.setPublicKeysWithCooldown publicKeys, ()⟩
        (before.withPublicKeysAndCooldown keyStore publicKeys nanoseconds)

/-- What an answer says about the store. -/
def Answers (store : Store) : Entry → Prop
  | ⟨.rlockNow, response⟩ =>
      response.1 = store.clock ∧ store.keyStore = some response.2
  | ⟨.rlock, keyStore⟩ => store.keyStore = some keyStore
  | ⟨.getParametersByPath path, .ok output⟩ =>
      ∀ param ∈ output.parameters,
        param ∈ parametersUnder path store.parameters
  | _ => True

variable {op : Op} {choice : Choice} {before after : Store}
variable {response : op.Res}

theorem effect_of_perform
    (hperform : perform op choice before = some (response, after)) :
    Effect before ⟨op, response⟩ after := by
  unfold perform at hperform
  split at hperform
  case h_8 =>
    split at hperform
    · cases hperform
    · next hnew =>
        cases hperform
        exact .constructed _ _ _ hnew
  case h_11 =>
    obtain ⟨keyStore, hkeyStore, hafter⟩ := Option.map_eq_some_iff.mp hperform
    cases hafter
    exact .refreshed keyStore _ hkeyStore
  case h_12 =>
    obtain ⟨keyStore, hkeyStore, hafter⟩ := Option.map_eq_some_iff.mp hperform
    cases hafter
    exact .cooled keyStore _ 0 hkeyStore
  case h_13 =>
    obtain ⟨keyStore, hkeyStore, hafter⟩ := Option.map_eq_some_iff.mp hperform
    cases hafter
    exact .cooled keyStore _ _ hkeyStore
  case h_9 =>
    obtain ⟨keyStore, -, hafter⟩ := Option.map_eq_some_iff.mp hperform
    cases hafter
    exact .kept rfl
  case h_10 =>
    obtain ⟨keyStore, -, hafter⟩ := Option.map_eq_some_iff.mp hperform
    cases hafter
    exact .kept rfl
  case h_1 =>
    split at hperform <;> cases hperform <;> exact .kept rfl
  case h_3 =>
    split at hperform <;> cases hperform <;> exact .kept rfl
  all_goals cases hperform
  all_goals exact .kept rfl

theorem answers_of_perform
    (hperform : perform op choice before = some (response, after)) :
    Answers before ⟨op, response⟩ := by
  cases op with
  | rlockNow =>
      cases choice with
      | ok =>
          obtain ⟨keyStore, hkeyStore, hafter⟩ :=
            Option.map_eq_some_iff.mp hperform
          cases hafter
          exact ⟨rfl, hkeyStore⟩
      | _ => cases hperform
  | rlock =>
      cases choice with
      | ok =>
          obtain ⟨keyStore, hkeyStore, hafter⟩ :=
            Option.map_eq_some_iff.mp hperform
          cases hafter
          exact hkeyStore
      | _ => cases hperform
  | getParametersByPath path =>
      cases choice with
      | ok =>
          cases hperform
          exact fun param hparam => hparam
      | page count nextToken =>
          cases hperform
          exact fun param hparam => List.mem_of_mem_take hparam
      | fault text =>
          cases hperform
          trivial
      | delay nanoseconds => cases hperform
  | _ => trivial

theorem Effect.clock {entry : Entry} (heffect : Effect before entry after) :
    before.clock ≤ after.clock := by
  cases heffect with
  | cooled keyStore publicKeys nanoseconds _ =>
      exact Int.le_add_of_nonneg_right (Int.natCast_nonneg nanoseconds)
  | _ => exact le_refl _

theorem Effect.parameters {entry : Entry}
    (heffect : Effect before entry after) :
    after.parameters = before.parameters := by
  cases heffect <;> rfl

/-- What the environment leaves as it is. -/
structure Framed (before after : Store) : Prop where
  keyStore : after.keyStore = before.keyStore
  clock : before.clock ≤ after.clock

theorem framed_of_advance {change : Env}
    (hadvance : advance change before = some after) :
    Framed before after := by
  cases change with
  | tick nanoseconds =>
      cases hadvance
      exact ⟨rfl, Int.le_add_of_nonneg_right (Int.natCast_nonneg nanoseconds)⟩
  | setParameters | setSecrets =>
      cases hadvance
      exact ⟨rfl, le_refl _⟩

end Effects

variable {cfg : KeyConfig} {admissible earlier : Pool → Label → Prop}
variable {clock : Time} {parameters : List Parameter}
variable {secrets : List (String × Option String)} {first pool : Pool}

/-- An operation that call `id` performs in `pool`. -/
structure Exec (cfg : KeyConfig) (pool : Pool) (id : ℕ) (choice : Choice)
    (call : Call) (op : Op) (response : op.Res) (after : Store) : Prop where
  lookup : pool.calls.lookup id = some call
  nextOp : pool.nextOp id = some op
  guarded : guard cfg call.req call.history op
  performed : perform op choice pool.store = some (response, after)
  effect : Effect pool.store ⟨op, response⟩ after
  answers : Answers pool.store ⟨op, response⟩

/-- Two runs one after the other. -/
theorem reach_anyStep
    (hbase : (machine cfg).Reach earlier (start clock parameters secrets)
      first)
    (hreach : (machine cfg).Reach admissible first pool) :
    (machine cfg).Reach anyStep (start clock parameters secrets) pool :=
  (hbase.mono fun _ _ _ => trivial).trans (hreach.mono fun _ _ _ => trivial)

theorem exec_of_perform {id : ℕ} {choice : Choice} {call : Call} {op : Op}
    {next : op.Res → Prog Op Op.Res Outcome} {response : op.Res}
    {after : Store}
    (hreach : (machine cfg).Reach admissible
      (start clock parameters secrets) pool)
    (hlookup : pool.calls.lookup id = some call)
    (hrest : call.rest = .call op next)
    (hperform : perform op choice pool.store = some (response, after)) :
    Exec cfg pool id choice call op response after where
  lookup := hlookup
  nextOp := Pool.nextOp_eq hlookup hrest
  guarded := hreach.guard_next (sat_program cfg) hlookup hrest
  performed := hperform
  effect := effect_of_perform hperform
  answers := answers_of_perform hperform

/-- The invariant rule of the key store, from a pool reached on. -/
theorem invariant_from {I : Pool → Prop}
    (hbase : (machine cfg).Reach earlier (start clock parameters secrets)
      first)
    (hfirst : I first)
    (hstart : ∀ pool id req, (machine cfg).Reach admissible first pool →
      I pool → admissible pool (.start id req) →
      I (pool.startCall (machine cfg) id req))
    (hexec : ∀ pool id choice call op next response after,
      (machine cfg).Reach admissible first pool → I pool →
      Exec cfg pool id choice call op response after →
      call.rest = .call op next → admissible pool (.exec id choice) →
      I (pool.execCall id call op next response after))
    (henv : ∀ pool change after, (machine cfg).Reach admissible first pool →
      I pool → advance change pool.store = some after →
      admissible pool (.env change) → I { pool with store := after })
    (hreach : (machine cfg).Reach admissible first pool) : I pool := by
  refine Machine.Reach.invariant hfirst ?_ ?_ henv hreach
  · intro pool id req hpool ih _ hallowed
    exact hstart pool id req hpool ih hallowed
  · intro pool id choice call op next response after hpool ih hlookup hrest
      hperform hallowed
    exact hexec pool id choice call op next response after hpool ih
      (exec_of_perform (reach_anyStep hbase hpool) hlookup hrest hperform)
      hrest hallowed

section Calls

variable {id : ℕ} {call : Call}

/-- What holds of an operation when it is performed, and speaks about the
history only, holds of every entry of a call that arrived after `first`. -/
theorem forall_since {F : History → Entry → Prop}
    (hbase : (machine cfg).Reach earlier (start clock parameters secrets)
      first)
    (hperformed : ∀ pool id choice call op response after,
      (machine cfg).Reach admissible first pool →
      Exec cfg pool id choice call op response after →
      first.calls.lookup id = none → F call.history ⟨op, response⟩)
    (hreach : (machine cfg).Reach admissible first pool)
    (hcall : pool.calls.lookup id = some call)
    (hnew : first.calls.lookup id = none) {entry : Entry} {older : History}
    (hentry : entry :: older <:+ call.history) : F older entry := by
  refine invariant_from (I := fun pool => ∀ id call,
    pool.calls.lookup id = some call → first.calls.lookup id = none →
    ∀ entry older, entry :: older <:+ call.history → F older entry) hbase
    ?_ ?_ ?_ ?_ hreach id call hcall hnew entry older hentry
  · intro id call hcall hnew
    rw [hnew] at hcall
    cases hcall
  · intro pool id req _ ih _ other call hcall hnew entry older hentry
    rcases lookup_startCall hcall with ⟨-, hnil⟩ | hold
    · rw [hnil] at hentry
      simp at hentry
    · exact ih other call hold hnew entry older hentry
  · intro pool id choice call op next response after hpool ih hexec _ _ other
      later hlater hnew entry older hentry
    rcases lookup_execCall hlater with ⟨rfl, -, hhistory⟩ | ⟨-, hold⟩
    · rw [hhistory] at hentry
      rcases List.suffix_cons_iff.mp hentry with heq | hrest
      · obtain ⟨rfl, rfl⟩ := List.cons.inj heq
        exact hperformed pool _ choice call op response after hpool hexec hnew
      · exact ih _ call hexec.lookup hnew entry older hrest
    · exact ih other later hold hnew entry older hentry
  · intro pool change after _ ih _ _
    exact ih

end Calls

section Times

/-- Time does not go back. -/
theorem clock_mono (hreach : (machine cfg).Reach admissible first pool) :
    first.store.clock ≤ pool.store.clock := by
  refine Machine.Reach.invariant (I := fun pool =>
    first.store.clock ≤ pool.store.clock) (le_refl _) ?_ ?_ ?_ hreach
  · intro pool id req _ ih _ _
    exact ih
  · intro pool id choice call op next response after _ ih _ _ hperform _
    exact ih.trans (effect_of_perform hperform).clock
  · intro pool change after _ ih hadvance _
    exact ih.trans (framed_of_advance hadvance).clock

/-- The key store as its methods leave it: the limits are the defaults, and
the keys were loaded in the past. -/
structure Loaded (store : Store) (keyStore : KeyStore) : Prop where
  cacheTTL : keyStore.cacheTTL = defaultCacheTTL
  kidCooldown : keyStore.kidCooldown = defaultKidCooldown
  loadedAt : keyStore.publicKeysLoadedAt ≤ store.clock

theorem Loaded.later {before after : Store} {keyStore : KeyStore}
    (hloaded : Loaded before keyStore) (hclock : before.clock ≤ after.clock) :
    Loaded after keyStore :=
  { hloaded with loadedAt := hloaded.loadedAt.trans hclock }

/-- The key store after an operation was there before, or its keys are those
that the operation has installed, loaded now. -/
theorem keyStore_of_effect {entry : Entry} {before after : Store}
    {keyStore : KeyStore} (heffect : Effect before entry after)
    (hafter : after.keyStore = some keyStore) :
    (installs entry.1 = none ∧ before.keyStore = some keyStore) ∨
    (installs entry.1 = some keyStore.publicKeys ∧
      keyStore.publicKeysLoadedAt = before.clock) := by
  cases heffect with
  | kept hkeeps => exact Or.inl ⟨hkeeps, hafter⟩
  | _ =>
      cases hafter
      exact Or.inr ⟨rfl, rfl⟩

theorem loaded_of_reach
    (hreach : (machine cfg).Reach admissible (start clock parameters secrets)
      pool) {keyStore : KeyStore}
    (hkeyStore : pool.store.keyStore = some keyStore) :
    Loaded pool.store keyStore := by
  have hbase : (machine cfg).Reach anyStep (start clock parameters secrets)
      (start clock parameters secrets) := .refl
  refine invariant_from (I := fun pool => ∀ keyStore,
    pool.store.keyStore = some keyStore → Loaded pool.store keyStore) hbase
    ?_ ?_ ?_ ?_ hreach keyStore hkeyStore
  · intro keyStore hkeyStore
    cases hkeyStore
  · intro pool id req _ ih _
    exact ih
  · intro pool id choice call op next response after _ ih hexec _ _ keyStore
      hkeyStore
    cases hexec.effect with
    | kept _ => exact ih keyStore hkeyStore
    | constructed privateKey currentKeyID publicKeys _ =>
        cases hkeyStore
        exact ⟨rfl, rfl, le_refl _⟩
    | refreshed former publicKeys hformer =>
        cases hkeyStore
        have hloaded := ih former hformer
        exact ⟨hloaded.cacheTTL, hloaded.kidCooldown, le_refl _⟩
    | cooled former publicKeys nanoseconds hformer =>
        cases hkeyStore
        have hloaded := ih former hformer
        exact ⟨hloaded.cacheTTL, hloaded.kidCooldown,
          Int.le_add_of_nonneg_right (Int.natCast_nonneg nanoseconds)⟩
  · intro pool change after _ ih hadvance _ keyStore hkeyStore
    have hframed := framed_of_advance hadvance
    rw [hframed.keyStore] at hkeyStore
    exact (ih keyStore hkeyStore).later hframed.clock

end Times

end MessagingPlatform.KeyStoreRuns
