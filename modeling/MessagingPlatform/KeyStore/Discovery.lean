import MessagingPlatform.KeyStore.WholeKeyCalls

/-!
# Discovery of new keys

A load after the key was stored holds the key, and the cooldown of unknown key
ids starts with a load.  So while the cooldown is active the cache is at least
as young, and a key that was stored before the cooldown began is in it.
-/

namespace MessagingPlatform.Discovery

open Program
open Interleaving
open Instants
open Errors
open MessagingPlatform.Sequential
open AtOnce
open AWSKeyStore
open KeyStoreRules
open KeyStoreRuns
open LoadedKeys
open WholeKeyCalls

section Conditions

/-- The operation succeeds, takes no time, and a fetch returns everything. -/
def succeeds : Choice → Prop
  | .ok => True
  | _ => False

instance (choice : Choice) : Decidable (succeeds choice) :=
  match choice with
  | .ok => isTrue trivial
  | .fault _ => isFalse id
  | .page _ _ => isFalse id
  | .delay _ => isFalse id

/-- Every stored key is well-formed when it is fetched. -/
def wellFormed (cfg : KeyConfig) (store : Store) : Op → Prop
  | .getParametersByPath path =>
      (keysOf cfg ⟨parametersUnder path store.parameters, none⟩).isOk = true
  | _ => True

instance (cfg : KeyConfig) (store : Store) (op : Op) :
    Decidable (wellFormed cfg store op) := by
  unfold wellFormed
  split <;> infer_instance

/-- SSM has stored the key id since `since`. -/
def storedSince (kid : String) (since : Time) (store : Store) : Prop :=
  since < store.clock → stored kid store.parameters = true

instance (kid : String) (since : Time) (store : Store) :
    Decidable (storedSince kid since store) :=
  inferInstanceAs (Decidable (_ → _))

/-- Calls are served at once, the fetches succeed with everything stored, and
the key id is stored from `since` on. -/
def discoverable (cfg : KeyConfig) (kid : String) (since : Time) (pool : Pool)
    (label : Label) : Prop :=
  atOnce pool label ∧ storedSince kid since pool.store ∧
    whenPerforming (wellFormed cfg) pool label ∧
      match label with
      | .exec _ choice => succeeds choice
      | _ => True

instance (cfg : KeyConfig) (kid : String) (since : Time) (pool : Pool)
    (label : Label) : Decidable (discoverable cfg kid since pool label) := by
  unfold discoverable
  cases label <;> infer_instance

/-- What such a run permits an operation. -/
def permitted (cfg : KeyConfig) (kid : String) (since : Time) (_ : History)
    (op : Op) (choice : Choice) (store : Store) : Prop :=
  succeeds choice ∧ wellFormed cfg store op ∧ storedSince kid since store

end Conditions

variable {cfg : KeyConfig} {kid : String} {since clock : Time}
variable {parameters : List Parameter}
variable {secrets : List (String × Option String)} {pool : Pool}

/-- An operation that takes no time. -/
theorem clock_of_succeeds {op : Op} {choice : Choice} {response : op.Res}
    {before after : Store} (hsucceeds : succeeds choice)
    (hperform : perform op choice before = some (response, after)) :
    after.clock = before.clock := by
  cases choice with
  | ok =>
      cases op with
      | setPublicKeysWithCooldown publicKeys =>
          obtain ⟨keyStore, -, heq⟩ := Option.map_eq_some_iff.mp hperform
          cases heq
          exact add_zero _
      | _ =>
          have heffect := effect_of_perform hperform
          cases heffect <;> rfl
  | _ => exact hsucceeds.elim

section Caches

/-- What the fields say about the key: the limits are the defaults, the
cooldown started with a load, and a load since then holds the key. -/
structure Current (kid : String) (since : Time) (store : Store)
    (keyStore : KeyStore) : Prop where
  loaded : Loaded store keyStore
  stamp : keyStore.lastUnknownKidRefresh ≤ keyStore.publicKeysLoadedAt
  holds : since < keyStore.publicKeysLoadedAt →
    keyStore.publicKeys.lookup kid ≠ none

/-- A load that SSM answers in such a run holds the key. -/
theorem holds_of_asked {store : Store} {older : History}
    {answer : Except GoError GetParametersByPathOutput} {publicKeys : KeyMap}
    (hasked : Asked (permitted cfg kid since) store older answer)
    (hloads : loads cfg answer publicKeys) (hsince : since < store.clock) :
    publicKeys.lookup kid ≠ none := by
  obtain ⟨choice, ⟨hsucceeds, -, hstored⟩, hperform⟩ := hasked
  cases choice with
  | ok =>
      cases hperform
      obtain ⟨output, houtput, hkeys⟩ := hloads
      cases houtput
      exact lookup_of_stored hkeys (hstored hsince)
  | _ => exact hsucceeds.elim

/-- No fetch fails in such a run. -/
theorem loads_of_asked {store : Store} {older : History}
    {answer : Except GoError GetParametersByPathOutput}
    (hasked : Asked (permitted cfg kid since) store older answer) :
    ¬ unloaded cfg answer := by
  obtain ⟨choice, ⟨hsucceeds, hwellFormed, -⟩, hperform⟩ := hasked
  cases choice with
  | ok =>
      cases hperform
      intro hfailed
      have hok : (keysOf cfg ⟨parametersUnder ssmPublicKeysPathPrefix
        store.parameters, none⟩).isOk = true := hwellFormed
      cases hkeys : keysOf cfg ⟨parametersUnder ssmPublicKeysPathPrefix
          store.parameters, none⟩ with
      | ok publicKeys => exact hfailed publicKeys ⟨_, rfl, hkeys⟩
      | error err =>
          rw [hkeys] at hok
          cases hok
  | _ => exact hsucceeds.elim

variable {id : ℕ} {before reached : Store} {keyStore found : KeyStore}
variable {events : List Event} {other : String}
variable {outcome : Except GoError String}

theorem Current.refresh {older : History}
    {answer : Except GoError GetParametersByPathOutput} {publicKeys : KeyMap}
    (hcurrent : Current kid since before keyStore)
    (hasked : Asked (permitted cfg kid since) before older answer)
    (hloads : loads cfg answer publicKeys) :
    Current kid since (before.withPublicKeys keyStore publicKeys)
      (refreshedStore keyStore publicKeys before.clock) where
  loaded :=
    { cacheTTL := hcurrent.loaded.cacheTTL
      kidCooldown := hcurrent.loaded.kidCooldown
      loadedAt := le_refl _ }
  stamp := hcurrent.stamp.trans hcurrent.loaded.loadedAt
  holds := fun hsince => holds_of_asked hasked hloads hsince

theorem Current.missing (hcurrent : Current kid since before keyStore)
    (hmissing : Missing cfg (permitted cfg kid since) id before keyStore other
      events reached found) : Current kid since reached found := by
  cases hmissing with
  | fresh => exact hcurrent
  | refreshed _ _ _ hasked hloads _ => exact hcurrent.refresh hasked hloads

/-- A whole call keeps the cache current. -/
theorem Current.call (hcurrent : Current kid since before keyStore)
    (hcall : WholeCall cfg (permitted cfg kid since) id before keyStore other
      events reached outcome) {after : KeyStore}
    (hkeyStore : before.keyStore = some keyStore)
    (hafter : reached.keyStore = some after) :
    Current kid since reached after := by
  have hmissed : ∀ {missed : List Event} {found : KeyStore},
      Missing cfg (permitted cfg kid since) id before keyStore other missed
        reached found → Current kid since reached after := by
    intro missed found hmissing
    have hfound := hcurrent.missing hmissing
    have hsame : reached.keyStore = some found := by
      cases hmissing with
      | fresh => exact hkeyStore
      | refreshed => rfl
    rw [hafter, Option.some.injEq] at hsame
    rw [hsame]
    exact hfound
  cases hcall with
  | cached =>
      rw [hkeyStore, Option.some.injEq] at hafter
      rw [← hafter]
      exact hcurrent
  | refreshed _ _ _ _ hasked hloads _ =>
      cases hafter
      exact hcurrent.refresh hasked hloads
  | outage =>
      rw [hkeyStore, Option.some.injEq] at hafter
      rw [← hafter]
      exact hcurrent
  | cooling _ _ _ _ hmissing | failing _ _ _ _ _ hmissing =>
      exact hmissed hmissing
  | loaded missed middle found answer publicKeys nanoseconds _ final _ hmissing
      _ hasked hloads _ hset _ _ =>
      have hfound := hcurrent.missing hmissing
      cases hafter
      -- The installation takes no time, so both stamps are the same.
      obtain ⟨older, choice, ⟨hsucceeds, -⟩, hperform⟩ := hset
      have hinstant : middle.clock + (nanoseconds : ℤ) = middle.clock :=
        clock_of_succeeds hsucceeds hperform
      exact
        { loaded :=
            { cacheTTL := hfound.loaded.cacheTTL
              kidCooldown := hfound.loaded.kidCooldown
              loadedAt := Int.le_add_of_nonneg_right
                (Int.natCast_nonneg nanoseconds) }
          stamp := hinstant.le
          holds := fun hsince => holds_of_asked hasked hloads hsince }

/-- A call for the key that comes after the cooldown finds it. -/
theorem found_of_call (hcurrent : Current kid since before keyStore)
    (hcall : WholeCall cfg (permitted cfg kid since) id before keyStore kid
      events reached outcome)
    (hlate : since + defaultKidCooldown < before.clock) :
    ∃ pk, outcome = .ok pk := by
  have hcooldown : 0 ≤ defaultKidCooldown := by decide
  have hsince : since < before.clock :=
    lt_of_le_of_lt (le_add_of_nonneg_right hcooldown) hlate
  cases hcall with
  | cached pk | refreshed _ _ pk => exact ⟨pk, rfl⟩
  | outage _ _ _ hasked hfailed | failing _ _ _ _ _ _ _ hasked hfailed =>
      exact (loads_of_asked hasked hfailed).elim
  | cooling _ _ found _ hmissing hcooling =>
      have hfound := hcurrent.missing hmissing
      rw [hfound.loaded.kidCooldown,
        sub_le_iff (by decide) (by decide)] at hcooling
      have hload : since < found.publicKeysLoadedAt := by
        linarith [hfound.stamp]
      exact (hfound.holds hload hmissing.lookup_none).elim
  | loaded _ middle _ _ publicKeys _ _ _ _ hmissing _ hasked hloads _ _ _
      houtcome =>
      rcases houtcome with ⟨pk, -, houtcome⟩ | ⟨hnone, -⟩
      · exact ⟨pk, houtcome⟩
      · rw [← hmissing.clock] at hsince
        exact (holds_of_asked hasked hloads hsince hnone).elim

end Caches

section Runs

/-- What holds between calls. -/
structure Discovering (kid : String) (since : Time) (pool : Pool) : Prop where
  clock : zeroTime ≤ pool.store.clock
  current : ∀ keyStore, pool.store.keyStore = some keyStore →
    Current kid since pool.store keyStore
  found : ∀ id call called, pool.calls.lookup id = some call →
    call.req = .publicKey kid → calledAt call = some called →
    since + defaultKidCooldown < called →
      ∃ pk, publicKeyOutcome call = some (.ok pk)

theorem permitted_of_discoverable {current : Pool} {id : ℕ} {choice : Choice}
    {call : Call} {op : Op} {next : op.Res → Prog Op Op.Res Outcome}
    (hlookup : current.calls.lookup id = some call)
    (hrest : call.rest = .call op next)
    (hallowed : discoverable cfg kid since current (.exec id choice)) :
    permitted cfg kid since call.history op choice current.store :=
  ⟨hallowed.2.2.2, hallowed.2.2.1 op (Pool.nextOp_eq hlookup hrest),
    hallowed.2.1⟩

/-- Whole calls keep it. -/
theorem Discovering.call {first ended : Pool} {id : ℕ} {call : Call}
    {events : List Event}
    (hreach : (machine cfg).Reach (discoverable cfg kid since)
      (start clock parameters secrets) ended)
    (hfirst : Discovering kid since first)
    (hwhole : Whole (machine cfg) (permitted cfg kid since) first ended id call
      events)
    (hreturned : call.rest.finished = true) :
    Discovering kid since ended := by
  have hclock : first.store.clock ≤ ended.store.clock := by
    rcases whole_cases hreach hwhole hreturned with ⟨hsame, -⟩ |
      ⟨-, _, _, _, hconstruction⟩ | ⟨other, keyStore, outcome, -, -, -, hcall⟩
    · rw [hsame]
    · rw [hconstruction.after]
    · exact hcall.clock
  refine ⟨hfirst.clock.trans hclock, ?_, ?_⟩
  · intro keyStore hkeyStore
    rcases whole_cases hreach hwhole hreturned with ⟨hsame, -⟩ |
      ⟨-, _, _, publicKeys, hconstruction⟩ |
      ⟨other, former, outcome, -, hformer, -, hcall⟩
    · rw [hsame] at hkeyStore ⊢
      exact hfirst.current keyStore hkeyStore
    · rw [hconstruction.after] at hkeyStore ⊢
      cases hkeyStore
      obtain ⟨older, answer, hasked, hloads⟩ := hconstruction.keys
      exact
        { loaded := ⟨rfl, rfl, le_refl _⟩
          stamp := hfirst.clock
          holds := fun hsince => holds_of_asked hasked hloads hsince }
    · exact (hfirst.current former hformer).call hcall hformer hkeyStore
  · intro other later called hlater hreq hcalled hlate
    by_cases hother : other = id
    · subst hother
      rw [hwhole.lookup, Option.some.injEq] at hlater
      subst hlater
      obtain ⟨keyStore, outcome, hkeyStore, houtcome, hcall⟩ :=
        wholeCall_of_whole hreach hwhole hreturned hreq
      rw [hcall.calledAt hwhole.history, Option.some.injEq] at hcalled
      subst hcalled
      obtain ⟨pk, rfl⟩ :=
        found_of_call (hfirst.current keyStore hkeyStore) hcall hlate
      exact ⟨pk, houtcome⟩
    · rw [hwhole.others other hother] at hlater
      exact hfirst.found other later called hlater hreq hcalled hlate

theorem discovering_of_reach (hclock : zeroTime ≤ clock)
    (hreach : (machine cfg).Reach (discoverable cfg kid since)
      (start clock parameters secrets) pool)
    (hquiescent : quiescent pool = true) : Discovering kid since pool := by
  refine atOnce_invariant (permitted cfg kid since)
    (fun _ _ hallowed => hallowed.1) ?_ ?_ ?_ rfl ?_ hreach hquiescent
  · intro current id choice call op next hlookup hrest hallowed
    exact permitted_of_discoverable hlookup hrest hallowed
  · intro before ended id call events _ hended hbefore hwhole hreturned
    exact hbefore.call hended hwhole hreturned
  · intro current change after _ hcurrent hadvance _
    have hframed := framed_of_advance hadvance
    refine ⟨hcurrent.clock.trans hframed.clock, ?_, hcurrent.found⟩
    intro keyStore hkeyStore
    rw [hframed.keyStore] at hkeyStore
    have hformer := hcurrent.current keyStore hkeyStore
    exact { hformer with loaded := hformer.loaded.later hframed.clock }
  · refine ⟨hclock, ?_, ?_⟩
    · intro keyStore hkeyStore
      cases hkeyStore
    · intro id call called hcall
      simp [start, Pool.initial] at hcall

/-- Such a run in which only calls go on. -/
def discoverableAlone (cfg : KeyConfig) (kid : String) (since : Time)
    (pool : Pool) (label : Label) : Prop :=
  discoverable cfg kid since pool label ∧ onlyExec pool label

/-- While only calls go on, SSM keeps what it stores and no time passes. -/
theorem frame_of_alone {first : Pool}
    (hkeyStore : first.store.keyStore.isSome = true)
    (hreach : (machine cfg).Reach (discoverableAlone cfg kid since) first
      pool) :
    pool.store.parameters = first.store.parameters ∧
      pool.store.clock = first.store.clock ∧
      pool.store.keyStore.isSome = true := by
  refine Machine.Reach.invariant (I := fun pool =>
    pool.store.parameters = first.store.parameters ∧
      pool.store.clock = first.store.clock ∧
      pool.store.keyStore.isSome = true) ⟨rfl, rfl, hkeyStore⟩ ?_ ?_ ?_ hreach
  · intro current other req _ _ _ hallowed
    exact hallowed.2.elim
  · intro current other choice call op next response after _ ih _ _ hperform
      hallowed
    have heffect : Effect current.store ⟨op, response⟩ after :=
      effect_of_perform hperform
    refine ⟨heffect.parameters.trans ih.1,
      (clock_of_succeeds hallowed.1.2.2.2 hperform).trans ih.2.1, ?_⟩
    change after.keyStore.isSome = true
    cases heffect with
    | kept => exact ih.2.2
    | _ => rfl
  · intro current change after _ _ _ hallowed
    exact hallowed.2.elim

/-- A call that is made on a constructed key store returns. -/
theorem returns_of_discoverable {id : ℕ}
    (hreach : (machine cfg).Reach (discoverable cfg kid since)
      (start clock parameters secrets) pool)
    (hquiescent : quiescent pool = true)
    (harrives : pool.calls.lookup id = none)
    (hkeyStore : pool.store.keyStore.isSome = true)
    (hstored : storedSince kid since pool.store)
    (hwellFormed : wellFormed cfg pool.store fetch) :
    ∃ ended call, (machine cfg).Reach (discoverable cfg kid since) pool ended ∧
      quiescent ended = true ∧ ended.calls.lookup id = some call ∧
      call.req = .publicKey kid ∧
      calledAt call = some pool.store.clock := by
  have hadmitted : discoverable cfg kid since pool
      (.start id (.publicKey kid)) := ⟨hquiescent, hstored, trivial, trivial⟩
  have harrival : (machine cfg).step pool (.start id (.publicKey kid)) =
      some (pool.startCall (machine cfg) id (.publicKey kid)) := by
    simp [Machine.step, harrives]
  have hstart : (machine cfg).Reach (discoverable cfg kid since) pool
      (pool.startCall (machine cfg) id (.publicKey kid)) :=
    Machine.Reach.refl.step hadmitted harrival
  have hall : ∀ reached, (machine cfg).Reach
      (discoverableAlone cfg kid since)
      (pool.startCall (machine cfg) id (.publicKey kid)) reached →
      (machine cfg).Reach (discoverable cfg kid since) pool reached :=
    fun reached hreached =>
      hstart.trans (hreached.mono fun _ _ hallowed => hallowed.1)
  have hpermits : ∀ (current : Pool) id choice (call : Call) op next,
      current.calls.lookup id = some call → call.rest = .call op next →
      discoverableAlone cfg kid since current (.exec id choice) →
        permitted cfg kid since call.history op choice current.store :=
    fun current id choice call op next hlookup hrest hallowed =>
      permitted_of_discoverable hlookup hrest hallowed.1
  have henabled : ∀ reached op, (machine cfg).Reach
      (discoverableAlone cfg kid since)
      (pool.startCall (machine cfg) id (.publicKey kid)) reached →
      reached.nextOp id = some op →
      ∃ choice, discoverableAlone cfg kid since reached (.exec id choice) ∧
        ((machine cfg).perform op choice reached.store).isSome = true := by
    intro reached op hreached hnext
    have hconstructed : (pool.startCall (machine cfg) id
      (.publicKey kid)).store.keyStore.isSome = true := hkeyStore
    obtain ⟨hparameters, hclock, hpresent⟩ :=
      frame_of_alone hconstructed hreached
    obtain ⟨call, events, hwhole, hreq⟩ := whole_of_reach
      (permitted cfg kid since) (fun _ _ hallowed => hallowed.2) hpermits
      hquiescent harrives hreached
    obtain ⟨next, hrest⟩ := rest_of_nextOp hwhole.lookup hnext
    have hguard := (hreach.trans (hall reached hreached)).guard_next
      (sat_program cfg) hwhole.lookup hrest
    rw [hreq] at hguard
    refine ⟨.ok, ⟨⟨trivial, ?_, ?_, trivial⟩, trivial⟩,
      perform_isSome hguard hpresent⟩
    · rw [storedSince, hclock, hparameters]
      exact hstored
    · intro asked hasked
      rw [hnext, Option.some.injEq] at hasked
      subst hasked
      cases op with
      | getParametersByPath path =>
          rw [hguard.1]
          change (keysOf cfg ⟨parametersUnder _ reached.store.parameters,
            none⟩).isOk = true
          rw [hparameters]
          exact hwellFormed
      | _ => trivial
  obtain ⟨ended, returned, hended, hlookup, hreq, hfinished⟩ :=
    exists_returned (AList.lookup_insert _) henabled
  obtain ⟨call, events, hwhole, -⟩ := whole_of_reach
    (permitted cfg kid since) (fun _ _ hallowed => hallowed.2) hpermits
    hquiescent harrives hended
  have hsame := hwhole.lookup
  rw [hlookup, Option.some.injEq] at hsame
  subst hsame
  obtain ⟨keyStore, outcome, -, -, hcall⟩ := wholeCall_of_whole
    (hreach.trans (hall ended hended)) hwhole hfinished hreq
  exact ⟨ended, returned, hall ended hended,
    hwhole.quiescent_iff.mpr hfinished, hlookup, hreq,
    hcall.calledAt hwhole.history⟩

end Runs

/-- Calls are served at once and the fetches succeed with everything stored,
all of it well-formed; the key id is stored from `since` on.  Then every call
for it that is made more than the cooldown later returns a key, whatever was
asked for before; and every call that is made returns. -/
theorem stored_key_discovered (cfg : KeyConfig) (kid : String)
    (since clock : Time) (parameters : List Parameter)
    (secrets : List (String × Option String)) (pool : Pool)
    (hclock : zeroTime ≤ clock)
    (hreach : (machine cfg).Reach (discoverable cfg kid since)
      (start clock parameters secrets) pool)
    (hquiescent : quiescent pool = true) :
    (∀ id call called, pool.calls.lookup id = some call →
      call.req = .publicKey kid → calledAt call = some called →
      since + defaultKidCooldown < called →
        ∃ pk, publicKeyOutcome call = some (.ok pk)) ∧
    ∀ id, pool.calls.lookup id = none →
      pool.store.keyStore.isSome = true → storedSince kid since pool.store →
      wellFormed cfg pool.store fetch →
        ∃ ended call,
          (machine cfg).Reach (discoverable cfg kid since) pool ended ∧
          quiescent ended = true ∧ ended.calls.lookup id = some call ∧
          call.req = .publicKey kid ∧
          calledAt call = some pool.store.clock := by
  constructor
  · exact (discovering_of_reach hclock hreach hquiescent).found
  · intro id harrives hkeyStore hstored hwellFormed
    exact returns_of_discoverable hreach hquiescent harrives hkeyStore hstored
      hwellFormed

section Schedules

/-- 14 November 2023, 22:13:20 UTC. -/
def evening : Time := 1700000000 * second

def currentKey : Parameter := ⟨some ssmCurrentKeyIDPath, some "key-001"⟩

/-- The account before a rotation, -/
def oneKey : List Parameter :=
  currentKey :: parametersOf [("key-001", publicPEM)]

/-- and with the next key. -/
def twoKeys : List Parameter :=
  currentKey :: parametersOf [("key-001", publicPEM), ("key-002", otherPEM)]

def signingSecrets : List (String × Option String) :=
  [("jwt/signing-key/key-001", some privatePEM)]

/-- A call with the choices for its operations. -/
def serve (id : ℕ) (req : Request) (choices : List Choice) : List Label :=
  .start id req :: choices.map (.exec id)

/-- The construction of the key store. -/
def constructing : List Label :=
  serve 0 .newAWSKeyStore [.ok, .ok, .ok, .ok]

/-- A call that finds its key or is in the cooldown. -/
def asking (id : ℕ) (kid : String) (count : ℕ) : List Label :=
  serve id (.publicKey kid) (List.replicate count .ok)

/-- The next key is stored; a made-up key id uses the cooldown up, and the key
is asked for more than thirty seconds later. -/
def discovery : Pool :=
  (machine decoders).runTo (discoverable decoders "key-002" evening)
    (start evening oneKey signingSecrets)
    (constructing ++ asking 1 "key-999" 5 ++
      [.env (.setParameters twoKeys), .env (.tick 31000000000)] ++
      asking 2 "key-002" 5)

end Schedules

/-- The key of the schedule is discovered. -/
theorem discovery_finds_key :
    ∃ call ∈ discovery.calls.lookup 2,
      ∃ pk, publicKeyOutcome call = some (.ok pk) := by
  have hrun : quiescent discovery = true ∧
      ∃ call ∈ discovery.calls.lookup 2, call.req = .publicKey "key-002" ∧
        calledAt call = some (evening + 31 * second) := by
    decide +kernel
  obtain ⟨hquiescent, call, hcall, hreq, hcalled⟩ := hrun
  have hfound := (stored_key_discovered decoders "key-002" evening evening
    oneKey signingSecrets discovery (by decide) (Machine.reach_runTo _)
    hquiescent).1 2 call (evening + 31 * second) hcall hreq hcalled (by decide)
  exact ⟨call, hcall, hfound⟩

end MessagingPlatform.Discovery
