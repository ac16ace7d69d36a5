import MessagingPlatform.KeyStore.Outage

/-!
# Fetches for unknown key ids

The cooldown keeps two fetches for unknown key ids apart when the first of
them has loaded its keys: the stamp is written with the keys and not when the
fetch fails.  A call makes a second fetch exactly when it has refreshed an
expired cache, has not found its key in it, and the cooldown is over.
-/

namespace MessagingPlatform.Flooding

open Program
open Interleaving
open Instants
open Errors
open MessagingPlatform.Sequential
open AtOnce
open AWSKeyStore
open KeyStoreRules
open KeyStoreRuns
open LoadedKeys
open WholeKeyCalls
open Discovery
open Outage

section Definitions

/-- The fetch of `refreshPublicKeysWithCooldown`: it follows the read of the
cooldown. -/
def unknownKidFetch (older : History) : Op → Bool
  | .getParametersByPath _ =>
      match older with
      | ⟨.rlock, _⟩ :: _ => true
      | _ => false
  | _ => false

/-- The fetches for unknown key ids, newest first. -/
def unknownFetches (log : List Event) : List Event :=
  log.filter fun event => unknownKidFetch event.older event.entry.1

/-- The newer fetch is made more than the cooldown after the older one. -/
def apart (newer older : Event) : Prop :=
  older.before.clock + defaultKidCooldown < newer.before.clock

instance (newer older : Event) : Decidable (apart newer older) :=
  inferInstanceAs (Decidable (_ < _))

def isFetch : Entry → Bool
  | ⟨.getParametersByPath _, _⟩ => true
  | _ => false

/-- The fetches that a call has made. -/
def fetchCount (history : History) : ℕ := (history.filter isFetch).length

variable (cfg : KeyConfig)

/-- SSM answers a fetch with a list that parses. -/
def answersWithKeys (choice : Choice) (store : Store) : Bool :=
  match perform fetch choice store with
  | some (answer, _) => (loadedKeys cfg ⟨fetch, answer⟩).isSome
  | none => true

/-- The fetches for unknown key ids load their keys. -/
def unknownLoads (older : History) (op : Op) (choice : Choice)
    (store : Store) : Prop :=
  unknownKidFetch older op = true → answersWithKeys cfg choice store = true

instance (older : History) (op : Op) (choice : Choice) (store : Store) :
    Decidable (unknownLoads cfg older op choice store) :=
  inferInstanceAs (Decidable (_ → _))

/-- Calls are served at once, and SSM answers the fetches for unknown key
ids. -/
def answering (pool : Pool) (label : Label) : Prop :=
  atOnce pool label ∧ permitting (unknownLoads cfg) pool label

instance (pool : Pool) (label : Label) :
    Decidable (answering cfg pool label) :=
  inferInstanceAs (Decidable (_ ∧ _))

/-- The call has refreshed an expired cache, the keys it has loaded do not have
its key id, and the cooldown was over when it arrived. -/
def Refetches (kid : String) (history : History) : Prop :=
  ∃ later now keyStore answer publicKeys,
    history = later ++ [⟨fetch, answer⟩, looked now keyStore] ∧
    loads cfg answer publicKeys ∧ publicKeys.lookup kid = none ∧
    coolingOver now keyStore

end Definitions

variable {cfg : KeyConfig} {clock : Time} {parameters : List Parameter}
variable {secrets : List (String × Option String)} {pool : Pool}

section Calls

variable {permits : History → Op → Choice → Store → Prop} {id : ℕ}
variable {before reached : Store} {keyStore found : KeyStore}
variable {events : List Event} {kid : String}
variable {outcome : Except GoError String}

theorem unknownFetches_of_missing
    (hmissing : Missing cfg permits id before keyStore kid events reached
      found) : unknownFetches events = [] := by
  cases hmissing <;> rfl

/-- A refresh of the expired cache does not touch the cooldown. -/
theorem cooldown_of_missing
    (hmissing : Missing cfg permits id before keyStore kid events reached
      found) :
    found.lastUnknownKidRefresh = keyStore.lastUnknownKidRefresh ∧
      found.kidCooldown = keyStore.kidCooldown := by
  cases hmissing <;> exact ⟨rfl, rfl⟩

theorem coolingOver_of_missing {now : Time}
    (hmissing : Missing cfg permits id before keyStore kid events reached
      found) : coolingOver now found ↔ coolingOver now keyStore := by
  obtain ⟨hstamp, hcooldown⟩ := cooldown_of_missing hmissing
  rw [coolingOver, coolingOver, hstamp, hcooldown]

/-- The fetch for the unknown key id that a call has made. -/
structure Fetched (before reached : Store) (keyStore : KeyStore)
    (event : Event) : Prop where
  clock : event.before.clock = before.clock
  cooled : coolingOver before.clock keyStore
  stamp : ∃ after, reached.keyStore = some after ∧
    before.clock ≤ after.lastUnknownKidRefresh

/-- SSM answers such a fetch of a run. -/
theorem loads_of_unknownLoads {store : Store} {checked : KeyStore}
    {missed : History} {answer : Except GoError GetParametersByPathOutput}
    (hasked : Asked (unknownLoads cfg) store (⟨.rlock, checked⟩ :: missed)
      answer) : ¬ unloaded cfg answer := by
  obtain ⟨choice, hpermits, hperform⟩ := hasked
  have hanswers := hpermits rfl
  rw [answersWithKeys, hperform] at hanswers
  intro hfailed
  change (loadedKeys cfg ⟨fetch, answer⟩).isSome = true at hanswers
  rw [loadedKeys_of_unloaded hfailed] at hanswers
  cases hanswers

/-- A whole call makes no fetch for an unknown key id and keeps the stamp, or
it makes one and writes the stamp. -/
theorem unknownFetches_of_call
    (hcall : WholeCall cfg (unknownLoads cfg) id before keyStore kid events
      reached outcome) (hkeyStore : before.keyStore = some keyStore) :
    (unknownFetches events = [] ∧ ∃ after, reached.keyStore = some after ∧
      after.lastUnknownKidRefresh = keyStore.lastUnknownKidRefresh) ∨
    ∃ event, unknownFetches events = [event] ∧
      Fetched before reached keyStore event := by
  cases hcall with
  | cached => exact Or.inl ⟨rfl, keyStore, hkeyStore, rfl⟩
  | refreshed => exact Or.inl ⟨rfl, _, rfl, rfl⟩
  | outage => exact Or.inl ⟨rfl, keyStore, hkeyStore, rfl⟩
  | cooling missed _ found _ hmissing _ =>
      refine Or.inl ⟨?_, found, keyStore_of_missing hmissing hkeyStore,
        (cooldown_of_missing hmissing).1⟩
      change unknownFetches missed = []
      exact unknownFetches_of_missing hmissing
  | failing _ _ _ _ _ _ _ hasked hfailed =>
      exact (loads_of_unknownLoads hasked hfailed).elim
  | loaded missed middle found answer publicKeys nanoseconds installed _ _
      hmissing hover _ _ hinstalled _ _ _ =>
      refine Or.inr ⟨fetching id (reading id missed middle found :: missed)
        middle answer, ?_, hmissing.clock,
        (coolingOver_of_missing hmissing).mp hover, ⟨_, rfl, ?_⟩⟩
      · subst hinstalled
        change _ :: unknownFetches missed = _
        rw [unknownFetches_of_missing hmissing]
      · rw [← hmissing.clock]
        exact Int.le_add_of_nonneg_right (Int.natCast_nonneg nanoseconds)

theorem eq_of_lastTwo {later front : History} {first second third last : Entry}
    (heq : front ++ [first, second] = later ++ [third, last]) :
    first = third ∧ second = last := by
  have htail := List.append_inj_right' heq rfl
  simpa using htail

/-- A fetch that does not load is followed by no other. -/
theorem not_refetches_of_unloaded (front : History) {now : Time}
    {answer : Except GoError GetParametersByPathOutput}
    (hfailed : unloaded cfg answer) :
    ¬ Refetches cfg kid (front ++ [⟨fetch, answer⟩, looked now keyStore]) := by
  rintro ⟨later, read, found, asked, publicKeys, hhistory, hloads, -⟩
  have hfetch := (eq_of_lastTwo hhistory).1
  cases hfetch
  exact hfailed publicKeys hloads

/-- The first operation after the read was no fetch. -/
theorem not_refetches_of_reading (front : History) {now : Time} :
    ¬ Refetches cfg kid (front ++ [⟨.rlock, found⟩, looked now keyStore]) := by
  rintro ⟨later, read, other, asked, publicKeys, hhistory, -⟩
  have hfetch := (eq_of_lastTwo hhistory).1
  cases hfetch

theorem refetches_iff_of_loads (front : History) {now : Time}
    {answer : Except GoError GetParametersByPathOutput} {publicKeys : KeyMap}
    (hloads : loads cfg answer publicKeys) :
    Refetches cfg kid (front ++ [⟨fetch, answer⟩, looked now keyStore]) ↔
      publicKeys.lookup kid = none ∧ coolingOver now keyStore := by
  constructor
  · rintro ⟨later, read, found, asked, keys, hhistory, hkeys, hmissing, hover⟩
    obtain ⟨hfetch, hlooked⟩ := eq_of_lastTwo hhistory
    cases hfetch
    cases hlooked
    have hsame := loadedKeys_of_loads hkeys
    rw [loadedKeys_of_loads hloads, Option.some.injEq] at hsame
    rw [hsame]
    exact ⟨hmissing, hover⟩
  · rintro ⟨hmissing, hover⟩
    exact ⟨front, now, keyStore, answer, publicKeys, rfl, hloads, hmissing,
      hover⟩

/-- Whether a call that has not found its key goes on to a second fetch. -/
theorem fetches_of_missing (front : History)
    (hmissing : Missing cfg permits id before keyStore kid events reached
      found) :
    fetchCount (events.map Event.entry) = 0 ∧
        ¬ Refetches cfg kid
          (front ++ ⟨.rlock, found⟩ :: events.map Event.entry) ∨
    fetchCount (events.map Event.entry) = 1 ∧
        (Refetches cfg kid
          (front ++ ⟨.rlock, found⟩ :: events.map Event.entry) ↔
            coolingOver before.clock keyStore) := by
  cases hmissing with
  | fresh => exact Or.inl ⟨rfl, not_refetches_of_reading front⟩
  | refreshed answer publicKeys _ _ hloads hnone =>
      refine Or.inr ⟨rfl, ?_⟩
      have hsplit : front ++ (⟨.rlock,
            refreshedStore keyStore publicKeys before.clock⟩ : Entry) ::
          (rereading id before keyStore answer publicKeys).map Event.entry =
          (front ++
            [⟨.rlock, refreshedStore keyStore publicKeys before.clock⟩,
              ⟨.rlock, refreshedStore keyStore publicKeys before.clock⟩,
              ⟨.setPublicKeys publicKeys, ()⟩]) ++
            [⟨fetch, answer⟩, looked before.clock keyStore] :=
        (List.append_assoc front [_, _, _] [_, _]).symm
      rw [hsplit, refetches_iff_of_loads _ hloads]
      exact and_iff_right hnone

/-- A whole call makes at most one fetch, except when it has refreshed an
expired cache without finding its key and the cooldown is over. -/
theorem fetches_of_call
    (hcall : WholeCall cfg permits id before keyStore kid events reached
      outcome) :
    fetchCount (events.map Event.entry) ≤ 1 ↔
      ¬ Refetches cfg kid (events.map Event.entry) := by
  cases hcall with
  | cached =>
      refine iff_of_true (Nat.zero_le 1) ?_
      rintro ⟨later, _, _, _, _, hhistory, -⟩
      have hlength := congrArg List.length hhistory
      simp at hlength
  | refreshed answer publicKeys pk _ _ hloads hfound =>
      refine iff_of_true (le_refl 1) ?_
      intro hrefetches
      have hnone := ((refetches_iff_of_loads [_, _] hloads).mp
        hrefetches).1
      rw [hfound] at hnone
      cases hnone
  | outage answer _ _ _ hfailed =>
      exact iff_of_true (le_refl 1) (not_refetches_of_unloaded [] hfailed)
  | cooling missed _ found _ hmissing hcooling =>
      rcases fetches_of_missing [] hmissing with
        ⟨hcount, hnot⟩ | ⟨hcount, hiff⟩
      · exact iff_of_true (hcount.le.trans zero_le_one) hnot
      · refine iff_of_true hcount.le ?_
        intro hrefetches
        exact (coolingOver_of_missing hmissing).mpr (hiff.mp hrefetches)
          hcooling
  | failing missed _ found answer _ hmissing hover _ _ =>
      rcases fetches_of_missing [⟨fetch, answer⟩] hmissing with
        ⟨hcount, hnot⟩ | ⟨hcount, hiff⟩
      · exact iff_of_true (Nat.succ_le_succ hcount.le) hnot
      · refine iff_of_false ?_ (not_not_intro (hiff.mpr
          ((coolingOver_of_missing hmissing).mp hover)))
        change ¬ fetchCount (missed.map Event.entry) + 1 ≤ 1
        omega
  | loaded missed middle found answer publicKeys _ installed final _ hmissing
      hover _ _ hinstalled _ _ _ =>
      subst hinstalled
      rcases fetches_of_missing [⟨.rlock, final⟩,
          ⟨.setPublicKeysWithCooldown publicKeys, ()⟩, ⟨fetch, answer⟩]
          hmissing with ⟨hcount, hnot⟩ | ⟨hcount, hiff⟩
      · exact iff_of_true (Nat.succ_le_succ hcount.le) hnot
      · refine iff_of_false ?_ (not_not_intro (hiff.mpr
          ((coolingOver_of_missing hmissing).mp hover)))
        change ¬ fetchCount (missed.map Event.entry) + 1 ≤ 1
        omega

end Calls

section Runs

/-- The fetches for unknown key ids so far. -/
structure Spaced (pool : Pool) : Prop where
  apart : (unknownFetches pool.log).Pairwise apart
  stamped : ∀ event ∈ unknownFetches pool.log, ∃ keyStore,
    pool.store.keyStore = some keyStore ∧
      event.before.clock ≤ keyStore.lastUnknownKidRefresh

/-- A fetch that the cooldown lets through is apart from the stamped ones. -/
theorem apart_of_fetched {before reached : Store} {keyStore : KeyStore}
    {newer older : Event}
    (hfetched : Fetched before reached keyStore newer)
    (hcooldown : keyStore.kidCooldown = defaultKidCooldown)
    (hstamped : older.before.clock ≤ keyStore.lastUnknownKidRefresh) :
    Flooding.apart newer older := by
  have hover := hfetched.cooled
  rw [coolingOver, hcooldown, sub_le_iff (by decide) (by decide), not_le]
    at hover
  rw [Flooding.apart, hfetched.clock]
  linarith

/-- Only `PublicKey` fetches because of an unknown key id. -/
theorem unknownFetches_of_other {admissible : Pool → Label → Prop}
    {permits : History → Op → Choice → Store → Prop} {first ended : Pool}
    {id : ℕ} {call : Call} {events : List Event}
    (hreach : (machine cfg).Reach admissible (start clock parameters secrets)
      ended)
    (hwhole : Whole (machine cfg) permits first ended id call events)
    (hreq : ∀ kid, call.req ≠ .publicKey kid) :
    unknownFetches events = [] := by
  rw [unknownFetches, List.filter_eq_nil_iff]
  intro event hevent
  have hlogged : event ∈ ended.log := by
    rw [hwhole.log]
    exact List.mem_append_left _ hevent
  obtain ⟨found, hfound, hsuffix⟩ :=
    hreach.logSound.recorded event hlogged
  rw [hwhole.alone.call_eq event hevent, hwhole.lookup, Option.some.injEq]
    at hfound
  subst hfound
  obtain ⟨hguard, holder⟩ :=
    (hreach.wellGuarded (sat_program cfg) hwhole.lookup).1.suffix hsuffix
  cases hkind : call.req with
  | publicKey kid => exact (hreq kid hkind).elim
  | signingKey =>
      rw [hkind] at hguard
      rw [hguard.2]
      exact Bool.false_ne_true
  | newAWSKeyStore =>
      rw [hkind] at holder
      unfold unknownKidFetch
      split
      · split
        · next hread =>
            rw [hread] at holder
            exact holder.1.elim
        · exact Bool.false_ne_true
      · exact Bool.false_ne_true

theorem Spaced.call {first ended : Pool} {id : ℕ} {call : Call}
    {events : List Event}
    (hfirst : (machine cfg).Reach (answering cfg)
      (start clock parameters secrets) first)
    (hreach : (machine cfg).Reach (answering cfg)
      (start clock parameters secrets) ended)
    (hspaced : Spaced first)
    (hwhole : Whole (machine cfg) (unknownLoads cfg) first ended id call
      events)
    (hreturned : call.rest.finished = true) : Spaced ended := by
  have hlog : unknownFetches ended.log =
      unknownFetches events ++ unknownFetches first.log := by
    rw [unknownFetches, hwhole.log, List.filter_append]
    rfl
  -- Without a fetch the stamps are the same, on a store that may be new.
  have hquiet : unknownFetches events = [] →
      (∀ keyStore, first.store.keyStore = some keyStore → ∃ after,
        ended.store.keyStore = some after ∧
        after.lastUnknownKidRefresh = keyStore.lastUnknownKidRefresh) →
      Spaced ended := by
    intro hnone hkept
    rw [hnone, List.nil_append] at hlog
    refine ⟨hlog ▸ hspaced.apart, ?_⟩
    intro event hevent
    rw [hlog] at hevent
    obtain ⟨keyStore, hkeyStore, hstamped⟩ := hspaced.stamped event hevent
    obtain ⟨after, hafter, hsame⟩ := hkept keyStore hkeyStore
    exact ⟨after, hafter, hsame ▸ hstamped⟩
  rcases whole_cases hreach hwhole hreturned with ⟨hsame, hother⟩ |
    ⟨hnew, privateKey, currentKeyID, publicKeys, hconstruction⟩ |
    ⟨kid, keyStore, outcome, -, hkeyStore, -, hcall⟩
  · refine hquiet (unknownFetches_of_other hreach hwhole hother) ?_
    intro keyStore hkeyStore
    exact ⟨keyStore, hsame ▸ hkeyStore, rfl⟩
  · refine hquiet (unknownFetches_of_other hreach hwhole ?_) ?_
    · intro kid hkid
      rw [hnew] at hkid
      cases hkid
    · intro keyStore hkeyStore
      rw [hconstruction.absent] at hkeyStore
      cases hkeyStore
  · rcases unknownFetches_of_call hcall hkeyStore with
      ⟨hnone, after, hafter, hsame⟩ | ⟨event, hevent, hfetched⟩
    · refine hquiet hnone ?_
      intro former hformer
      rw [hkeyStore, Option.some.injEq] at hformer
      exact ⟨after, hafter, hformer ▸ hsame⟩
    · have hcooldown := (loaded_of_reach hfirst hkeyStore).kidCooldown
      -- The earlier fetches are covered by the stamp that let this one pass.
      have hearlier : ∀ older ∈ unknownFetches first.log,
          older.before.clock ≤ keyStore.lastUnknownKidRefresh := by
        intro older holder
        obtain ⟨former, hformer, hstamped⟩ := hspaced.stamped older holder
        rw [hkeyStore, Option.some.injEq] at hformer
        rw [hformer]
        exact hstamped
      rw [hevent, List.singleton_append] at hlog
      obtain ⟨after, hafter, hstamp⟩ := hfetched.stamp
      constructor
      · rw [hlog, List.pairwise_cons]
        exact ⟨fun older holder =>
          apart_of_fetched hfetched hcooldown (hearlier older holder),
          hspaced.apart⟩
      · intro logged hlogged
        rw [hlog] at hlogged
        refine ⟨after, hafter, ?_⟩
        rcases List.mem_cons.mp hlogged with rfl | hold
        · rw [hfetched.clock]
          exact hstamp
        · have hbefore := apart_of_fetched hfetched hcooldown
            (hearlier logged hold)
          rw [Flooding.apart, hfetched.clock] at hbefore
          have hcooling : 0 ≤ defaultKidCooldown := by decide
          linarith

theorem spaced_of_reach
    (hreach : (machine cfg).Reach (answering cfg)
      (start clock parameters secrets) pool)
    (hquiescent : quiescent pool = true) : Spaced pool := by
  refine atOnce_invariant (unknownLoads cfg) (fun _ _ hallowed => hallowed.1)
    ?_ ?_ ?_ rfl ⟨.nil, by simp [unknownFetches, start, Pool.initial]⟩ hreach
    hquiescent
  · intro current id choice call op next hlookup hrest hallowed
    exact permits_of_permitting hlookup hrest hallowed.2
  · intro before ended id call events hbefore hended hspaced hwhole hreturned
    exact hspaced.call hbefore hended hwhole hreturned
  · intro current change after _ hspaced hadvance _
    refine ⟨hspaced.apart, ?_⟩
    rw [(framed_of_advance hadvance).keyStore]
    exact hspaced.stamped

end Runs

/-- Calls are served at once.  When SSM answers the fetches for unknown key ids
with lists that parse, any two of them are more than the cooldown apart.  A
call makes at most one fetch, except when it has refreshed an expired cache, has
not found its key id in what it loaded, and the cooldown is over. -/
theorem unknown_kid_fetches_limited (cfg : KeyConfig) (clock : Time)
    (parameters : List Parameter) (secrets : List (String × Option String))
    (first : Pool) (hquiescent : quiescent first = true) :
    ((machine cfg).Reach (answering cfg) (start clock parameters secrets)
        first → (unknownFetches first.log).Pairwise apart) ∧
    ((machine cfg).Reach atOnce (start clock parameters secrets) first →
      ∀ id kid ended call, first.calls.lookup id = none →
        (machine cfg).Reach onlyExec
          (first.startCall (machine cfg) id (.publicKey kid)) ended →
        ended.calls.lookup id = some call → call.rest.finished = true →
        (fetchCount call.history ≤ 1 ↔
          ¬ Refetches cfg kid call.history)) := by
  refine ⟨fun hreach => (spaced_of_reach hreach hquiescent).apart, ?_⟩
  intro hreach id kid ended call harrives hended hlookup hreturned
  obtain ⟨served, events, hwhole, hreq⟩ :=
    whole_serving hquiescent harrives hended
  have hsame := hwhole.lookup
  rw [hlookup, Option.some.injEq] at hsame
  subst hsame
  have hall := reach_serving hreach hquiescent
    (fun _ _ hallowed => atOnce_of_onlyExec hallowed) harrives hended
  obtain ⟨keyStore, outcome, -, -, hcall⟩ :=
    wholeCall_of_whole hall hwhole hreturned hreq
  rw [hwhole.history]
  exact fetches_of_call hcall

section Schedules

/-- Two made-up key ids, thirty-one seconds apart. -/
def slowGuesses : Pool :=
  (machine decoders).runTo (answering decoders)
    (start evening oneKey signingSecrets)
    (constructing ++ asking 1 "key-999" 5 ++ [.env (.tick 31000000000)] ++
      asking 2 "key-998" 5)

def thirdGuess : Pool :=
  (machine decoders).runTo onlyExec
    (slowGuesses.startCall (machine decoders) 3 (.publicKey "key-997"))
    [.exec 3 .ok, .exec 3 .ok]

/-- Two made-up key ids at the same time while SSM is unavailable. -/
def guessesInOutage : Pool :=
  (machine decoders).runTo atOnce (start evening oneKey signingSecrets)
    (constructing ++
      serve 1 (.publicKey "key-999") [.ok, .ok, .fault "ServiceUnavailable"] ++
      serve 2 (.publicKey "key-998") [.ok, .ok, .fault "ServiceUnavailable"])

/-- A made-up key id when the cache has expired. -/
def guessAtExpiry : Pool :=
  (machine decoders).runTo atOnce (start evening oneKey signingSecrets)
    (constructing ++ [.env (.tick 301000000000)] ++ asking 1 "key-999" 8)

end Schedules

/-- The fetches of the slow guesses are apart, and the guess that the cooldown
stops makes none. -/
theorem slowGuesses_limited :
    (unknownFetches slowGuesses.log).length = 2 ∧
    (unknownFetches slowGuesses.log).Pairwise apart ∧
    ∃ call ∈ thirdGuess.calls.lookup 3,
      ¬ Refetches decoders "key-997" call.history := by
  have hrun : quiescent slowGuesses = true ∧
      (unknownFetches slowGuesses.log).length = 2 ∧
      (slowGuesses.calls.lookup 3).isNone = true ∧
      ∃ call ∈ thirdGuess.calls.lookup 3, call.rest.finished = true ∧
        fetchCount call.history ≤ 1 := by
    decide +kernel
  obtain ⟨hquiescent, htwo, harrives, call, hcall, hfinished, hcount⟩ := hrun
  have hlimited := unknown_kid_fetches_limited decoders evening oneKey
    signingSecrets slowGuesses hquiescent
  have hatOnce : (machine decoders).Reach atOnce
      (start evening oneKey signingSecrets) slowGuesses :=
    (Machine.reach_runTo _).mono fun _ _ hallowed => hallowed.1
  exact ⟨htwo, hlimited.1 (Machine.reach_runTo _), call, hcall,
    (hlimited.2 hatOnce 3 "key-997" thirdGuess call
      (Option.isNone_iff_eq_none.mp harrives) (Machine.reach_runTo _) hcall
      hfinished).mp hcount⟩

/-- In the outage two fetches for unknown key ids are made at the same time,
and the guess at expiry makes two fetches in one call. -/
theorem guesses_not_limited :
    ((machine decoders).Reach atOnce (start evening oneKey signingSecrets)
        guessesInOutage ∧
      ¬ (unknownFetches guessesInOutage.log).Pairwise apart) ∧
    (machine decoders).Reach atOnce (start evening oneKey signingSecrets)
        guessAtExpiry ∧
      ∃ call ∈ guessAtExpiry.calls.lookup 1,
        call.req = .publicKey "key-999" ∧ call.rest.finished = true ∧
        fetchCount call.history = 2 := by
  have hrun : ¬ (unknownFetches guessesInOutage.log).Pairwise apart ∧
      ∃ call ∈ guessAtExpiry.calls.lookup 1,
        call.req = .publicKey "key-999" ∧ call.rest.finished = true ∧
        fetchCount call.history = 2 := by
    decide +kernel
  exact ⟨⟨Machine.reach_runTo _, hrun.1⟩, Machine.reach_runTo _, hrun.2⟩

end MessagingPlatform.Flooding
