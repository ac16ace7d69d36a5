import MessagingPlatform.KeyStore.Discovery

/-!
# Withdrawn keys

A key that has been removed from SSM stays in the cache for at most the cache
TTL after the load that brought it in.  The load is stamped when its result is
installed, not when it was fetched, so the bound counts from the removal only
in runs that do not install the key after it.  The calls may overlap in any
way, and a fetch and the installation of its result are steps of their own.
-/

namespace MessagingPlatform.Withdrawal

open Program
open Interleaving
open Instants
open Errors
open AWSKeyStore
open KeyStoreRules
open KeyStoreRuns
open LoadedKeys
open WholeKeyCalls
open Discovery

section Conditions

variable (kid : String) (removal : Time)

/-- The key is not stored once the clock has passed its removal. -/
def removed (pool : Pool) (_ : Label) : Prop :=
  removal < pool.store.clock → stored kid pool.store.parameters = false

instance (pool : Pool) (label : Label) :
    Decidable (removed kid removal pool label) :=
  inferInstanceAs (Decidable (_ → _))

/-- A map with the key is installed while the key is stored. -/
def installsStored (store : Store) (op : Op) : Prop :=
  ∀ publicKeys ∈ installs op,
    kid ∈ publicKeys.keys → stored kid store.parameters = true

instance (store : Store) (op : Op) :
    Decidable (installsStored kid store op) :=
  inferInstanceAs (Decidable (∀ publicKeys ∈ installs op, _))

/-- The runs in which the key is removed for good and no load brings it back
afterwards. -/
def withdrawn (pool : Pool) (label : Label) : Prop :=
  removed kid removal pool label ∧
    whenPerforming (installsStored kid) pool label

instance (pool : Pool) (label : Label) :
    Decidable (withdrawn kid removal pool label) :=
  inferInstanceAs (Decidable (_ ∧ _))

/-- A map that was installed after the removal does not have the key. -/
def Gone (keyStore : KeyStore) : Prop :=
  removal < keyStore.publicKeysLoadedAt → keyStore.publicKeys.lookup kid = none

end Conditions

variable {cfg : KeyConfig} {kid : String} {removal clock : Time}
variable {parameters : List Parameter}
variable {secrets : List (String × Option String)} {first pool : Pool}

/-- What a run installs after the removal does not have the key. -/
theorem lookup_of_installs {id : ℕ} {choice : Choice} {op : Op}
    {publicKeys : KeyMap} (hnext : pool.nextOp id = some op)
    (hallowed : withdrawn kid removal pool (.exec id choice))
    (hinstalls : installs op = some publicKeys)
    (hlate : removal < pool.store.clock) : publicKeys.lookup kid = none := by
  have hstored := hallowed.2 op hnext publicKeys hinstalls
  rw [AList.lookup_eq_none]
  intro hmem
  have hfalse := hallowed.1 hlate
  rw [hstored hmem] at hfalse
  cases hfalse

theorem gone_of_reach
    (hreach : (machine cfg).Reach (withdrawn kid removal)
      (start clock parameters secrets) pool) {keyStore : KeyStore}
    (hkeyStore : pool.store.keyStore = some keyStore) :
    Gone kid removal keyStore := by
  have hbase : (machine cfg).Reach anyStep (start clock parameters secrets)
      (start clock parameters secrets) := .refl
  refine invariant_from (I := fun pool => ∀ keyStore,
    pool.store.keyStore = some keyStore → Gone kid removal keyStore) hbase
    ?_ ?_ ?_ ?_ hreach keyStore hkeyStore
  · intro keyStore hkeyStore
    cases hkeyStore
  · intro pool id req _ ih _
    exact ih
  · intro pool id choice call op next response after _ ih hexec _ hallowed
      keyStore hkeyStore
    rcases keyStore_of_effect hexec.effect hkeyStore with
      ⟨-, hbefore⟩ | ⟨hinstalls, hloadedAt⟩
    · exact ih keyStore hbefore
    · intro hlate
      rw [hloadedAt] at hlate
      exact lookup_of_installs hexec.nextOp hallowed hinstalls hlate
  · intro pool change after _ ih hadvance _ keyStore hkeyStore
    rw [(framed_of_advance hadvance).keyStore] at hkeyStore
    exact ih keyStore hkeyStore

/-- The call has installed a map. -/
def HasInstalled (older : History) : Prop :=
  ∃ entry ∈ older, installs entry.1 ≠ none

/-- A call that arrived after `first` and has installed a map leaves one that
was loaded after the removal. -/
theorem loadedAt_of_hasInstalled
    (hbase : (machine cfg).Reach (withdrawn kid removal)
      (start clock parameters secrets) first)
    (hlate : removal < first.store.clock)
    (hreach : (machine cfg).Reach (withdrawn kid removal) first pool)
    {id : ℕ} {call : Call} (hcall : pool.calls.lookup id = some call)
    (hnew : first.calls.lookup id = none)
    (hinstalled : HasInstalled call.history) {keyStore : KeyStore}
    (hkeyStore : pool.store.keyStore = some keyStore) :
    removal < keyStore.publicKeysLoadedAt := by
  refine invariant_from (I := fun pool => ∀ id call keyStore,
    pool.calls.lookup id = some call → first.calls.lookup id = none →
    HasInstalled call.history → pool.store.keyStore = some keyStore →
    removal < keyStore.publicKeysLoadedAt) hbase ?_ ?_ ?_ ?_ hreach id call
    keyStore hcall hnew hinstalled hkeyStore
  · intro id call keyStore hcall hnew
    rw [hnew] at hcall
    cases hcall
  · intro pool id req _ ih _ other call keyStore hcall hnew hinstalled
      hkeyStore
    rcases lookup_startCall hcall with ⟨-, hnil⟩ | hold
    · obtain ⟨entry, hentry, -⟩ := hinstalled
      rw [hnil] at hentry
      cases hentry
    · exact ih other call keyStore hold hnew hinstalled hkeyStore
  · intro pool id choice call op next response after hpool ih hexec _ _ other
      later keyStore hlater hnew hinstalled hkeyStore
    rcases keyStore_of_effect hexec.effect hkeyStore with
      ⟨hkeeps, hbefore⟩ | ⟨-, hloadedAt⟩
    · rcases lookup_execCall hlater with ⟨rfl, -, hhistory⟩ | ⟨-, hold⟩
      · obtain ⟨entry, hentry, hinstalls⟩ := hinstalled
        rw [hhistory] at hentry
        rcases List.mem_cons.mp hentry with rfl | holder
        · exact absurd hkeeps hinstalls
        · exact ih _ call keyStore hexec.lookup hnew
            ⟨entry, holder, hinstalls⟩ hbefore
      · exact ih other later keyStore hold hnew hinstalled hbefore
    · rw [hloadedAt]
      exact hlate.trans_le (clock_mono hpool)
  · intro pool change after _ ih hadvance _ id call keyStore hcall hnew
      hinstalled hkeyStore
    rw [(framed_of_advance hadvance).keyStore] at hkeyStore
    exact ih id call keyStore hcall hnew hinstalled hkeyStore

/-- What a call that arrived after the TTL has read. -/
def Reads (kid : String) (removal : Time) (older : History) : Entry → Prop
  | ⟨.rlockNow, response⟩ =>
      removal + defaultCacheTTL < response.1 ∧ Gone kid removal response.2 ∧
        response.2.cacheTTL = defaultCacheTTL
  | ⟨.rlock, keyStore⟩ => HasInstalled older →
      keyStore.publicKeys.lookup kid = none
  | _ => True

theorem reads_of_reach
    (hbase : (machine cfg).Reach (withdrawn kid removal)
      (start clock parameters secrets) first)
    (hlate : removal + defaultCacheTTL < first.store.clock)
    (hreach : (machine cfg).Reach (withdrawn kid removal) first pool)
    {id : ℕ} {call : Call} (hcall : pool.calls.lookup id = some call)
    (hnew : first.calls.lookup id = none) {entry : Entry} {older : History}
    (hentry : entry :: older <:+ call.history) :
    Reads kid removal older entry := by
  have hremoval : removal < first.store.clock :=
    (lt_add_of_pos_right removal (by decide)).trans hlate
  refine forall_since hbase ?_ hreach hcall hnew hentry
  intro pool id choice call op response after hpool hexec hnew
  have hall := hbase.trans hpool
  have hanswers := hexec.answers
  cases op with
  | rlockNow =>
      obtain ⟨hclock, hkeyStore⟩ := hanswers
      refine ⟨?_, gone_of_reach hall hkeyStore,
        (loaded_of_reach hall hkeyStore).cacheTTL⟩
      rw [hclock]
      exact hlate.trans_le (clock_mono hpool)
  | rlock =>
      intro hinstalled
      exact gone_of_reach hall hanswers
        (loadedAt_of_hasInstalled hbase hremoval hpool hexec.lookup hnew
          hinstalled hanswers)
  | _ => trivial

/-- A cache that is fresh after the TTL was loaded after the removal. -/
theorem lookup_of_fresh {now : Time} {keyStore : KeyStore}
    (hlate : removal + defaultCacheTTL < now)
    (hgone : Gone kid removal keyStore)
    (httl : keyStore.cacheTTL = defaultCacheTTL)
    (hfresh : keyStore.cacheExpired now = false) :
    keyStore.publicKeys.lookup kid = none := by
  rw [KeyStore.cacheExpired, httl, decide_eq_false_iff_not, gt_iff_lt, not_lt,
    sub_le_iff (by decide) (by decide)] at hfresh
  exact hgone (by linarith)

/-- No call that arrives later than the cache TTL after the removal returns a
key. -/
theorem withdrawn_key_not_returned (cfg : KeyConfig) (kid : String)
    (removal clock : Time) (parameters : List Parameter)
    (secrets : List (String × Option String)) (first pool : Pool) (id : ℕ)
    (call : Call)
    (hbase : (machine cfg).Reach (withdrawn kid removal)
      (start clock parameters secrets) first)
    (hlate : removal + defaultCacheTTL < first.store.clock)
    (hnew : first.calls.lookup id = none)
    (hreach : (machine cfg).Reach (withdrawn kid removal) first pool)
    (hcall : pool.calls.lookup id = some call)
    (hreq : call.req = .publicKey kid) (pk : String) :
    publicKeyOutcome call ≠ some (.ok pk) := by
  intro houtcome
  have hreads : ∀ entry older, entry :: older <:+ call.history →
      Reads kid removal older entry := fun _ _ =>
    reads_of_reach hbase hlate hreach hcall hnew
  have hpost := (hbase.trans hreach).post_of_returned (sat_program cfg) hcall
    (rest_of_publicKeyOutcome houtcome)
  rw [hreq] at hpost
  generalize hhistory : call.history = history at hpost hreads
  cases hpost with
  | cached now keyStore _ hfresh hfound =>
      obtain ⟨hnow, hgone, httl⟩ := hreads _ _ (List.suffix_refl _)
      rw [lookup_of_fresh hnow hgone httl hfresh] at hfound
      cases hfound
  | refreshed now keyStore answer publicKeys refreshed _ _ _ hfound =>
      have hnone := hreads _ _ (List.suffix_refl _)
        ⟨⟨.setPublicKeys publicKeys, ()⟩, by simp, by simp [installs]⟩
      rw [hnone] at hfound
      cases hfound
  | discovered answer publicKeys refreshed _ earlier _ _ hfound =>
      have hnone := hreads _ _ (List.suffix_refl _)
        ⟨⟨.setPublicKeysWithCooldown publicKeys, ()⟩, by simp,
          by simp [installs]⟩
      rw [hnone] at hfound
      cases hfound

/-- The call has returned a key. -/
def returnsKey (call : Call) : Bool :=
  match publicKeyOutcome call with
  | some (.ok _) => true
  | _ => false

theorem returnsKey_iff {call : Call} :
    returnsKey call = true ↔ ∃ pk, publicKeyOutcome call = some (.ok pk) := by
  unfold returnsKey
  split <;> simp_all

section Schedules

/-- The key is removed one second after a load and asked for when the TTL has
passed since. -/
def beforeLateCall : Pool :=
  (machine decoders).runTo (withdrawn "key-002" (evening + second))
    (start evening twoKeys signingSecrets)
    (constructing ++
      [.env (.tick 1000000000), .env (.setParameters oneKey),
        .env (.tick 301000000000)])

def lateCall : Pool :=
  (machine decoders).runTo (withdrawn "key-002" (evening + second))
    beforeLateCall (asking 1 "key-002" 8)

/-- A refresh fetches the key, the key is removed, and one second later the
refresh installs what it fetched; a second call asks for the key three hundred
and a half seconds after the removal. -/
def staleRefresh : Pool :=
  (machine decoders).runTo (removed "key-002" (evening + 301 * second))
    (start evening twoKeys signingSecrets)
    (constructing ++ [.env (.tick 301000000000)] ++ asking 1 "key-002" 2 ++
      [.env (.setParameters oneKey), .env (.tick 1000000000), .exec 1 .ok,
        .exec 1 .ok, .env (.tick 299500000000)] ++ asking 2 "key-002" 1)

end Schedules

/-- The withdrawn key of the schedule is not returned. -/
theorem lateCall_returns_no_key :
    ∃ call ∈ lateCall.calls.lookup 1, (publicKeyOutcome call).isSome = true ∧
      ∀ pk, publicKeyOutcome call ≠ some (.ok pk) := by
  have hrun : evening + second + defaultCacheTTL <
        beforeLateCall.store.clock ∧
      (beforeLateCall.calls.lookup 1).isNone = true ∧
      ∃ call ∈ lateCall.calls.lookup 1, call.req = .publicKey "key-002" ∧
        (publicKeyOutcome call).isSome = true := by
    decide +kernel
  obtain ⟨hlate, hnew, call, hcall, hreq, hreturned⟩ := hrun
  exact ⟨call, hcall, hreturned,
    withdrawn_key_not_returned decoders "key-002" (evening + second) evening
      twoKeys signingSecrets beforeLateCall lateCall 1 call
      (Machine.reach_runTo _) hlate (Option.isNone_iff_eq_none.mp hnew)
      (Machine.reach_runTo _) hcall hreq⟩

/-- The key that a slow refresh has installed is returned later than the TTL
after its removal. -/
theorem staleRefresh_returns_key :
    (machine decoders).Reach (removed "key-002" (evening + 301 * second))
      (start evening twoKeys signingSecrets) staleRefresh ∧
    ∃ call ∈ staleRefresh.calls.lookup 2, call.req = .publicKey "key-002" ∧
      calledAt call =
        some (evening + 301 * second + defaultCacheTTL + 500000000) ∧
      ∃ pk, publicKeyOutcome call = some (.ok pk) := by
  have hrun : ∃ call ∈ staleRefresh.calls.lookup 2,
      call.req = .publicKey "key-002" ∧
      calledAt call =
        some (evening + 301 * second + defaultCacheTTL + 500000000) ∧
      returnsKey call = true := by
    decide +kernel
  obtain ⟨call, hcall, hreq, hcalled, hreturns⟩ := hrun
  exact ⟨Machine.reach_runTo _, call, hcall, hreq, hcalled,
    returnsKey_iff.mp hreturns⟩

end MessagingPlatform.Withdrawal
