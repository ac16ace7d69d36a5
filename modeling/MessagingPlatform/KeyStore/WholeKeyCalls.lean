import MessagingPlatform.Core.AtOnce
import MessagingPlatform.KeyStore.LoadedKeys

/-!
# Whole calls of the key store

A `PublicKey` call that is served at once, with every operation it performs:
`WholeCall` is read off its history and says what the call found, what it
returned and what it left behind.
-/

namespace MessagingPlatform.WholeKeyCalls

open Program
open Interleaving
open Instants
open Errors
open MessagingPlatform.Sequential
open AtOnce
open AWSKeyStore
open KeyStoreRules
open KeyStoreRuns
open LoadedKeys

section Definitions

/-- The key store after a load of public keys at `now`. -/
def refreshedStore (keyStore : KeyStore) (publicKeys : KeyMap) (now : Time) :
    KeyStore :=
  { keyStore with publicKeys := publicKeys, publicKeysLoadedAt := now }

variable (cfg : KeyConfig)
variable (permits : History → Op → Choice → Store → Prop)

/-- SSM gives the answer in this state. -/
def Asked (store : Store) (older : History)
    (answer : Except GoError GetParametersByPathOutput) : Prop :=
  ∃ choice, permits older fetch choice store ∧
    perform fetch choice store = some (answer, store)

section Events

variable (id : ℕ) (before : Store) (keyStore : KeyStore)

/-- The first read of a call. -/
def looking : Event :=
  ⟨id, [], looked before.clock keyStore, before, before⟩

/-- A read of the fields after `events`. -/
def reading (events : List Event) (store : Store) (found : KeyStore) : Event :=
  ⟨id, events.map Event.entry, ⟨.rlock, found⟩, store, store⟩

/-- A fetch after `events`. -/
def fetching (events : List Event) (store : Store)
    (answer : Except GoError GetParametersByPathOutput) : Event :=
  ⟨id, events.map Event.entry, ⟨fetch, answer⟩, store, store⟩

/-- An installation after `events`. -/
def installing (op : Op) (response : op.Res) (events : List Event)
    (store after : Store) : Event :=
  ⟨id, events.map Event.entry, ⟨op, response⟩, store, after⟩

/-- The refresh of an expired cache. -/
def refreshing (answer : Except GoError GetParametersByPathOutput)
    (publicKeys : KeyMap) : List Event :=
  installing id (.setPublicKeys publicKeys) ()
      [fetching id [looking id before keyStore] before answer,
        looking id before keyStore]
      before (before.withPublicKeys keyStore publicKeys) ::
    [fetching id [looking id before keyStore] before answer,
      looking id before keyStore]

/-- What a call finds in the refreshed cache. -/
def rereading (answer : Except GoError GetParametersByPathOutput)
    (publicKeys : KeyMap) : List Event :=
  reading id (refreshing id before keyStore answer publicKeys)
      (before.withPublicKeys keyStore publicKeys)
      (refreshedStore keyStore publicKeys before.clock) ::
    refreshing id before keyStore answer publicKeys

/-- The part of a call that has not found its key, with the state and the key
store it has come to. -/
inductive Missing (kid : String) : List Event → Store → KeyStore → Prop
  | fresh (hfresh : keyStore.cacheExpired before.clock = false)
      (hmissing : keyStore.publicKeys.lookup kid = none) :
      Missing kid [looking id before keyStore] before keyStore
  | refreshed (answer : Except GoError GetParametersByPathOutput)
      (publicKeys : KeyMap)
      (hexpired : keyStore.cacheExpired before.clock = true)
      (hasked : Asked permits before [looked before.clock keyStore] answer)
      (hloads : loads cfg answer publicKeys)
      (hmissing : publicKeys.lookup kid = none) :
      Missing kid (rereading id before keyStore answer publicKeys)
        (before.withPublicKeys keyStore publicKeys)
        (refreshedStore keyStore publicKeys before.clock)

/-- A whole call: its events, the state it leaves and its answer. -/
inductive WholeCall (kid : String) :
    List Event → Store → Except GoError String → Prop
  | cached (pk : String)
      (hfresh : keyStore.cacheExpired before.clock = false)
      (hfound : keyStore.publicKeys.lookup kid = some pk) :
      WholeCall kid [looking id before keyStore] before (.ok pk)
  | refreshed (answer : Except GoError GetParametersByPathOutput)
      (publicKeys : KeyMap) (pk : String)
      (hexpired : keyStore.cacheExpired before.clock = true)
      (hasked : Asked permits before [looked before.clock keyStore] answer)
      (hloads : loads cfg answer publicKeys)
      (hfound : publicKeys.lookup kid = some pk) :
      WholeCall kid (rereading id before keyStore answer publicKeys)
        (before.withPublicKeys keyStore publicKeys) (.ok pk)
  | outage (answer : Except GoError GetParametersByPathOutput) (err : GoError)
      (hexpired : keyStore.cacheExpired before.clock = true)
      (hasked : Asked permits before [looked before.clock keyStore] answer)
      (hfailed : unloaded cfg answer) :
      WholeCall kid
        [fetching id [looking id before keyStore] before answer,
          looking id before keyStore] before (.error err)
  | cooling (missed : List Event) (reached : Store) (found : KeyStore)
      (err : GoError)
      (hmissing : Missing cfg permits id before keyStore kid missed reached
        found)
      (hcooling : sub before.clock found.lastUnknownKidRefresh ≤
        found.kidCooldown) :
      WholeCall kid (reading id missed reached found :: missed) reached
        (.error err)
  | failing (missed : List Event) (reached : Store) (found : KeyStore)
      (answer : Except GoError GetParametersByPathOutput) (err : GoError)
      (hmissing : Missing cfg permits id before keyStore kid missed reached
        found)
      (hover : coolingOver before.clock found)
      (hasked : Asked permits reached
        (⟨.rlock, found⟩ :: missed.map Event.entry) answer)
      (hfailed : unloaded cfg answer) :
      WholeCall kid
        (fetching id (reading id missed reached found :: missed) reached
            answer :: reading id missed reached found :: missed) reached
        (.error err)
  | loaded (missed : List Event) (reached : Store) (found : KeyStore)
      (answer : Except GoError GetParametersByPathOutput)
      (publicKeys : KeyMap) (nanoseconds : ℕ) (installed : List Event)
      (final : KeyStore) (outcome : Except GoError String)
      (hmissing : Missing cfg permits id before keyStore kid missed reached
        found)
      (hover : coolingOver before.clock found)
      (hasked : Asked permits reached
        (⟨.rlock, found⟩ :: missed.map Event.entry) answer)
      (hloads : loads cfg answer publicKeys)
      (hinstalled : installed =
        installing id (.setPublicKeysWithCooldown publicKeys) ()
            (fetching id (reading id missed reached found :: missed) reached
              answer :: reading id missed reached found :: missed) reached
            (reached.withPublicKeysAndCooldown found publicKeys
              nanoseconds) ::
          fetching id (reading id missed reached found :: missed) reached
            answer :: reading id missed reached found :: missed)
      (hset : ∃ older choice,
        permits older (.setPublicKeysWithCooldown publicKeys) choice reached ∧
          perform (.setPublicKeysWithCooldown publicKeys) choice reached =
            some ((), reached.withPublicKeysAndCooldown found publicKeys
              nanoseconds))
      (hfinal : (reached.withPublicKeysAndCooldown found publicKeys
        nanoseconds).keyStore = some final)
      (houtcome : (∃ pk, publicKeys.lookup kid = some pk ∧ outcome = .ok pk) ∨
        (publicKeys.lookup kid = none ∧ ∃ err, outcome = .error err)) :
      WholeCall kid
        (reading id installed (reached.withPublicKeysAndCooldown found
          publicKeys nanoseconds) final :: installed)
        (reached.withPublicKeysAndCooldown found publicKeys nanoseconds)
        outcome

end Events

end Definitions

section Last

variable {cfg : KeyConfig}
variable {permits : History → Op → Choice → Store → Prop}
variable {id : ℕ} {first reached : Store} {events : List Event}
variable {older : History}

/-- The last operation of a call, if it installs nothing. -/
theorem last_kept {op : Op} {response : op.Res}
    (halone : Alone (machine cfg) permits id first events reached)
    (hhistory : events.map Event.entry = ⟨op, response⟩ :: older)
    (hkeeps : installs op = none) :
    ∃ rest choice, older = rest.map Event.entry ∧
      Alone (machine cfg) permits id first rest reached ∧
      permits older op choice reached ∧
      perform op choice reached = some (response, reached) ∧
      events = ⟨id, older, ⟨op, response⟩, reached, reached⟩ :: rest := by
  obtain ⟨rest, before, choice, holder, hbefore, hpermits, hperform, hevents⟩ :=
    halone.last hhistory
  have heffect : Effect before ⟨op, response⟩ reached :=
    effect_of_perform hperform
  have hsame : reached = before := by
    cases heffect with
    | kept _ => rfl
    | _ => cases hkeeps
  subst hsame
  exact ⟨rest, choice, holder, hbefore, hpermits, hperform, hevents⟩

/-- The last operation of a call, if it reads the fields. -/
theorem last_reading {found : KeyStore}
    (halone : Alone (machine cfg) permits id first events reached)
    (hhistory : events.map Event.entry = ⟨.rlock, found⟩ :: older) :
    ∃ rest, older = rest.map Event.entry ∧
      Alone (machine cfg) permits id first rest reached ∧
      reached.keyStore = some found ∧
      events = reading id rest reached found :: rest := by
  obtain ⟨rest, choice, rfl, hrest, -, hperform, hevents⟩ :=
    last_kept halone hhistory rfl
  exact ⟨rest, rfl, hrest, answers_of_perform hperform, hevents⟩

/-- The last operation of a call, if it is a fetch. -/
theorem last_fetching {answer : Except GoError GetParametersByPathOutput}
    (halone : Alone (machine cfg) permits id first events reached)
    (hhistory : events.map Event.entry = ⟨fetch, answer⟩ :: older) :
    ∃ rest, older = rest.map Event.entry ∧
      Alone (machine cfg) permits id first rest reached ∧
      Asked permits reached older answer ∧
      events = fetching id rest reached answer :: rest := by
  obtain ⟨rest, choice, rfl, hrest, hpermits, hperform, hevents⟩ :=
    last_kept halone hhistory rfl
  exact ⟨rest, rfl, hrest, ⟨choice, hpermits, hperform⟩, hevents⟩

/-- The first operation of a `PublicKey` call. -/
theorem first_looking {now : Time} {keyStore : KeyStore}
    (halone : Alone (machine cfg) permits id first events reached)
    (hhistory : events.map Event.entry = [looked now keyStore]) :
    now = first.clock ∧ first.keyStore = some keyStore ∧ reached = first ∧
      events = [looking id first keyStore] := by
  obtain ⟨rest, choice, hnil, hrest, -, hperform, hevents⟩ :=
    last_kept halone hhistory rfl
  obtain ⟨rfl, hfirst⟩ := hrest.eq_first hnil.symm
  subst hfirst
  obtain ⟨hnow, hkeyStore⟩ := answers_of_perform hperform
  dsimp only at hnow hkeyStore
  subst hnow
  exact ⟨rfl, hkeyStore, rfl, hevents⟩

/-- The refresh of an expired cache. -/
theorem last_refreshing {now : Time} {keyStore : KeyStore}
    {answer : Except GoError GetParametersByPathOutput} {publicKeys : KeyMap}
    (halone : Alone (machine cfg) permits id first events reached)
    (hhistory : events.map Event.entry =
      [⟨.setPublicKeys publicKeys, ()⟩, ⟨fetch, answer⟩,
        looked now keyStore]) :
    now = first.clock ∧ first.keyStore = some keyStore ∧
      Asked permits first [looked first.clock keyStore] answer ∧
      reached = first.withPublicKeys keyStore publicKeys ∧
      events = refreshing id first keyStore answer publicKeys := by
  obtain ⟨rest, before, choice, holder, hbefore, -, hperform, hevents⟩ :=
    halone.last hhistory
  obtain ⟨earlier, hearlier, hlooked, hasked, hrest⟩ :=
    last_fetching hbefore holder.symm
  obtain ⟨rfl, hkeyStore, hfirst, hlooking⟩ :=
    first_looking hlooked hearlier.symm
  subst hfirst hlooking hrest
  have heffect : Effect before ⟨.setPublicKeys publicKeys, ()⟩ reached :=
    effect_of_perform hperform
  have hreached : reached = before.withPublicKeys keyStore publicKeys := by
    cases heffect with
    | kept hkeeps => cases hkeeps
    | refreshed found _ hfound =>
        rw [hkeyStore, Option.some.injEq] at hfound
        rw [hfound]
  subst hreached
  exact ⟨rfl, hkeyStore, hasked, rfl, hevents⟩

/-- The cache after its refresh. -/
theorem last_rereading {now : Time} {keyStore refreshed : KeyStore}
    {answer : Except GoError GetParametersByPathOutput} {publicKeys : KeyMap}
    (halone : Alone (machine cfg) permits id first events reached)
    (hhistory : events.map Event.entry =
      refreshedEntries now keyStore answer publicKeys refreshed) :
    now = first.clock ∧ first.keyStore = some keyStore ∧
      Asked permits first [looked first.clock keyStore] answer ∧
      reached = first.withPublicKeys keyStore publicKeys ∧
      refreshed = refreshedStore keyStore publicKeys first.clock ∧
      events = rereading id first keyStore answer publicKeys := by
  obtain ⟨rest, hrest, hset, hread, hevents⟩ := last_reading halone hhistory
  obtain ⟨rfl, hkeyStore, hasked, rfl, rfl⟩ := last_refreshing hset hrest.symm
  cases hread
  exact ⟨rfl, hkeyStore, hasked, rfl, rfl, hevents⟩

/-- What a call has done that has not found its key. -/
theorem missing_of_missed {kid : String} {now : Time} {missed : History}
    (hmissed : Missed cfg kid now missed)
    (halone : Alone (machine cfg) permits id first events reached)
    (hhistory : events.map Event.entry = missed) :
    ∃ keyStore found, now = first.clock ∧ first.keyStore = some keyStore ∧
      reached.keyStore = some found ∧
      Missing cfg permits id first keyStore kid events reached found := by
  cases hmissed with
  | fresh keyStore hfresh hmissing =>
      obtain ⟨rfl, hkeyStore, rfl, rfl⟩ := first_looking halone hhistory
      exact ⟨keyStore, keyStore, rfl, hkeyStore, hkeyStore,
        .fresh hfresh hmissing⟩
  | refreshed keyStore answer publicKeys refreshed hexpired hloads hmissing =>
      obtain ⟨rfl, hkeyStore, hasked, rfl, rfl, rfl⟩ :=
        last_rereading halone hhistory
      exact ⟨keyStore, _, rfl, hkeyStore, rfl,
        .refreshed answer publicKeys hexpired hasked hloads hmissing⟩

/-- What a call has done that goes on because of an unknown key id. -/
theorem missing_of_unknown {kid : String} {earlier : History}
    (hunknown : Unknown cfg kid earlier)
    (halone : Alone (machine cfg) permits id first events reached)
    (hhistory : events.map Event.entry = earlier) :
    ∃ keyStore found missed, first.keyStore = some keyStore ∧
      reached.keyStore = some found ∧ coolingOver first.clock found ∧
      earlier = ⟨.rlock, found⟩ :: missed.map Event.entry ∧
      events = reading id missed reached found :: missed ∧
      Missing cfg permits id first keyStore kid missed reached found := by
  obtain ⟨now, checked, missed, hmissed, hover, rfl⟩ := hunknown
  obtain ⟨rest, rfl, hrest, hchecked, rfl⟩ := last_reading halone hhistory
  obtain ⟨keyStore, found, rfl, hkeyStore, hfound, hmissing⟩ :=
    missing_of_missed hmissed hrest rfl
  rw [hchecked, Option.some.injEq] at hfound
  subst hfound
  exact ⟨keyStore, checked, rest, hkeyStore, hchecked, hover, rfl, rfl,
    hmissing⟩

end Last

section Answers

variable {cfg : KeyConfig}
variable {permits : History → Op → Choice → Store → Prop}
variable {id : ℕ} {first reached : Store} {events : List Event}
variable {kid : String} {outcome : Except GoError String}

/-- The end of a call that has installed keys because of an unknown id. -/
theorem last_loaded {answer : Except GoError GetParametersByPathOutput}
    {publicKeys : KeyMap} {refreshed : KeyStore} {earlier : History}
    (halone : Alone (machine cfg) permits id first events reached)
    (hunknown : Unknown cfg kid earlier) (hloads : loads cfg answer publicKeys)
    (hhistory : events.map Event.entry = ⟨.rlock, refreshed⟩ ::
      ⟨.setPublicKeysWithCooldown publicKeys, ()⟩ :: ⟨fetch, answer⟩ ::
        earlier)
    (houtcome : (∃ pk, refreshed.publicKeys.lookup kid = some pk ∧
        outcome = .ok pk) ∨
      (refreshed.publicKeys.lookup kid = none ∧
        ∃ err, outcome = .error err)) :
    ∃ keyStore, first.keyStore = some keyStore ∧
      WholeCall cfg permits id first keyStore kid events reached outcome := by
  obtain ⟨rest, hrest, hset, hread, rfl⟩ := last_reading halone hhistory
  obtain ⟨fetched, before, choice, hfetched, hbefore, hpermits, hperform,
    hevents⟩ := hset.last hrest.symm
  obtain ⟨asked, hearlier, halone, hasked, rfl⟩ :=
    last_fetching hbefore hfetched.symm
  obtain ⟨keyStore, found, missed, hkeyStore, hfound, hover, rfl, rfl,
    hmissing⟩ := missing_of_unknown hunknown halone hearlier.symm
  have heffect : Effect before ⟨.setPublicKeysWithCooldown publicKeys, ()⟩
      reached := effect_of_perform hperform
  cases heffect with
  | kept hkeeps => cases hkeeps
  | cooled checked _ nanoseconds hchecked =>
      rw [hfound, Option.some.injEq] at hchecked
      subst hchecked
      subst hevents
      have hkeys : refreshed.publicKeys = publicKeys := by
        cases hread
        rfl
      rw [hkeys] at houtcome
      exact ⟨keyStore, hkeyStore, .loaded missed before found answer
        publicKeys nanoseconds _ refreshed outcome hmissing hover hasked
        hloads (by rw [hfetched]; rfl) ⟨_, choice, hpermits, hperform⟩ hread
        houtcome⟩

/-- What a whole call is, from what it has done and answered. -/
theorem wholeCall_of_answered
    (hanswered : Answered cfg kid (events.map Event.entry) outcome)
    (halone : Alone (machine cfg) permits id first events reached) :
    ∃ keyStore, first.keyStore = some keyStore ∧
      WholeCall cfg permits id first keyStore kid events reached outcome := by
  generalize hhistory : events.map Event.entry = history at hanswered
  cases hanswered with
  | cached now keyStore pk hfresh hfound =>
      obtain ⟨rfl, hkeyStore, rfl, rfl⟩ := first_looking halone hhistory
      exact ⟨keyStore, hkeyStore, .cached pk hfresh hfound⟩
  | refreshed now keyStore answer publicKeys refreshed pk hexpired hloads
      hfound =>
      obtain ⟨rfl, hkeyStore, hasked, rfl, rfl, rfl⟩ :=
        last_rereading halone hhistory
      exact ⟨keyStore, hkeyStore,
        .refreshed answer publicKeys pk hexpired hasked hloads hfound⟩
  | discovered answer publicKeys refreshed pk earlier hunknown hloads hfound =>
      exact last_loaded halone hunknown hloads hhistory
        (Or.inl ⟨pk, hfound, rfl⟩)
  | outage answer earlier err hearlier hfailed =>
      obtain ⟨rest, hrest, hbefore, hasked, rfl⟩ :=
        last_fetching halone hhistory
      rcases hearlier with ⟨now, keyStore, hexpired, rfl⟩ | hunknown
      · obtain ⟨rfl, hkeyStore, rfl, rfl⟩ := first_looking hbefore hrest.symm
        exact ⟨keyStore, hkeyStore, .outage answer err hexpired hasked hfailed⟩
      · obtain ⟨keyStore, found, missed, hkeyStore, -, hover, rfl, rfl,
          hmissing⟩ := missing_of_unknown hunknown hbefore hrest.symm
        exact ⟨keyStore, hkeyStore,
          .failing missed reached found answer err hmissing hover hasked
            hfailed⟩
  | cooling now checked missed err hmissed hcooling =>
      obtain ⟨rest, rfl, hrest, hchecked, rfl⟩ := last_reading halone hhistory
      obtain ⟨keyStore, found, rfl, hkeyStore, hfound, hmissing⟩ :=
        missing_of_missed hmissed hrest rfl
      rw [hchecked, Option.some.injEq] at hfound
      subst hfound
      exact ⟨keyStore, hkeyStore,
        .cooling rest reached checked err hmissing hcooling⟩
  | unknown answer publicKeys refreshed earlier err hunknown hloads
      hmissing =>
      exact last_loaded halone hunknown hloads hhistory
        (Or.inr ⟨hmissing, err, rfl⟩)

/-- The key store after the constructor. -/
def constructedStore (privateKey currentKeyID : String) (publicKeys : KeyMap)
    (now : Time) : KeyStore where
  privateKey := some privateKey
  currentKeyID := currentKeyID
  publicKeys := publicKeys
  publicKeysLoadedAt := now
  lastUnknownKidRefresh := zeroTime
  cacheTTL := defaultCacheTTL
  kidCooldown := defaultKidCooldown

/-- What the constructor has read and made of it. -/
structure Construction (cfg : KeyConfig)
    (permits : History → Op → Choice → Store → Prop) (before after : Store)
    (privateKey currentKeyID : String) (publicKeys : KeyMap) : Prop where
  absent : before.keyStore = none
  keyID : ∃ parameter choice,
    perform (.getParameter ssmCurrentKeyIDPath) choice before =
      some (.ok (some parameter), before) ∧
    parameter.value = some currentKeyID
  secret : ∃ secretString choice,
    perform (.getSecretValue (smSigningKeyPrefix ++ currentKeyID)) choice
      before = some (.ok (some secretString), before) ∧
    parseRSAPrivateKey cfg secretString = .ok privateKey
  keys : ∃ older answer, Asked permits before older answer ∧
    loads cfg answer publicKeys
  after : after = { before with
    keyStore := some (constructedStore privateKey currentKeyID publicKeys
      before.clock) }

/-- Operations that install nothing leave the state as it is. -/
theorem eq_of_unchanging
    (halone : Alone (machine cfg) permits id first events reached)
    (hkeeps : ∀ entry ∈ events.map Event.entry, installs entry.1 = none) :
    reached = first := by
  induction halone with
  | arrived => rfl
  | @performed events before after op choice response hbefore hpermits hperform
      ih =>
      rw [List.map_cons, List.forall_mem_cons] at hkeeps
      have heffect : Effect before ⟨op, response⟩ after :=
        effect_of_perform hperform
      cases heffect with
      | kept _ => exact ih hkeeps.2
      | _ => cases hkeeps.1

/-- What the constructor has done when it returns. -/
theorem construction_of_constructed {outcome : Except GoError Unit}
    (hconstructed : Constructed cfg (events.map Event.entry) outcome)
    (halone : Alone (machine cfg) permits id first events reached) :
    (reached = first ∧ ∃ err, outcome = .error err) ∨
      (outcome = .ok () ∧ ∃ privateKey currentKeyID publicKeys,
        Construction cfg permits first reached privateKey currentKeyID
          publicKeys) := by
  generalize hhistory : events.map Event.entry = history at hconstructed
  cases hconstructed with
  | failed history err hkeeps _ =>
      exact Or.inl ⟨eq_of_unchanging halone (by rwa [hhistory]), err, rfl⟩
  | constructed parameter currentKeyID secretString privateKey answer
      publicKeys hvalue hprivateKey hloads =>
      obtain ⟨rest, before, choice, hrest, hbefore, -, hperform, -⟩ :=
        halone.last hhistory
      obtain ⟨rest, hrest, hfetched, hasked, -⟩ :=
        last_fetching hbefore hrest.symm
      obtain ⟨rest, read, hrest, hsecret, -, hsecretValue, -⟩ :=
        last_kept hfetched hrest.symm rfl
      obtain ⟨rest, named, hrest, hparameter, -, hparameterValue, -⟩ :=
        last_kept hsecret hrest.symm rfl
      obtain ⟨-, rfl⟩ := hparameter.eq_first hrest.symm
      have heffect : Effect before
          ⟨.newKeyStore privateKey currentKeyID publicKeys, ()⟩ reached :=
        effect_of_perform hperform
      refine Or.inr ⟨rfl, privateKey, currentKeyID, publicKeys, ?_⟩
      cases heffect with
      | kept hkeeps => cases hkeeps
      | constructed _ _ _ hnew =>
          exact
            { absent := hnew
              keyID := ⟨parameter, named, hparameterValue, hvalue⟩
              secret := ⟨secretString, read, hsecretValue, hprivateKey⟩
              keys := ⟨_, answer, hasked, hloads⟩
              after := rfl }

end Answers

section Parts

variable {cfg : KeyConfig}
variable {permits : History → Op → Choice → Store → Prop}
variable {id : ℕ} {before reached : Store} {keyStore found : KeyStore}
variable {events : List Event} {kid : String}
variable {outcome : Except GoError String}

theorem Missing.lookup_none
    (hmissing : Missing cfg permits id before keyStore kid events reached
      found) : found.publicKeys.lookup kid = none := by
  cases hmissing with
  | fresh _ hmissing | refreshed _ _ _ _ _ hmissing => exact hmissing

theorem Missing.clock
    (hmissing : Missing cfg permits id before keyStore kid events reached
      found) : reached.clock = before.clock := by
  cases hmissing <;> rfl

theorem Missing.getLast
    (hmissing : Missing cfg permits id before keyStore kid events reached
      found) : events.getLast? = some (looking id before keyStore) := by
  cases hmissing <;> rfl

theorem WholeCall.getLast
    (hwhole : WholeCall cfg permits id before keyStore kid events reached
      outcome) : events.getLast? = some (looking id before keyStore) := by
  cases hwhole with
  | cached | refreshed | outage => rfl
  | cooling missed _ _ _ hmissing =>
      rw [List.getLast?_cons, hmissing.getLast]
      rfl
  | failing missed _ _ _ _ hmissing =>
      rw [List.getLast?_cons, List.getLast?_cons, hmissing.getLast]
      rfl
  | loaded missed _ _ _ _ _ installed _ _ hmissing _ _ _ hinstalled =>
      rw [hinstalled, List.getLast?_cons, List.getLast?_cons,
        List.getLast?_cons, List.getLast?_cons, hmissing.getLast]
      rfl

theorem WholeCall.clock
    (hwhole : WholeCall cfg permits id before keyStore kid events reached
      outcome) : before.clock ≤ reached.clock := by
  cases hwhole with
  | cooling _ _ _ _ hmissing | failing _ _ _ _ _ hmissing =>
      exact hmissing.clock.ge
  | loaded _ middle _ _ _ nanoseconds _ _ _ hmissing =>
      rw [← hmissing.clock]
      exact Int.le_add_of_nonneg_right (Int.natCast_nonneg nanoseconds)
  | _ => exact le_refl _

/-- The time at which a `PublicKey` call is made. -/
def calledAt (call : Call) : Option Time :=
  match call.history.getLast? with
  | some ⟨.rlockNow, response⟩ => some response.1
  | _ => none

theorem WholeCall.calledAt {call : Call}
    (hwhole : WholeCall cfg permits id before keyStore kid events reached
      outcome) (hhistory : call.history = events.map Event.entry) :
    calledAt call = some before.clock := by
  rw [WholeKeyCalls.calledAt, hhistory, List.getLast?_map, hwhole.getLast]
  rfl

end Parts

section Calls

variable {cfg : KeyConfig} {admissible : Pool → Label → Prop}
variable {permits : History → Op → Choice → Store → Prop}
variable {clock : Time} {parameters : List Parameter}
variable {secrets : List (String × Option String)}
variable {first ended : Pool} {id : ℕ} {call : Call} {events : List Event}

/-- Everything a whole call of the key store can be. -/
theorem whole_cases
    (hreach : (machine cfg).Reach admissible (start clock parameters secrets)
      ended)
    (hwhole : Whole (machine cfg) permits first ended id call events)
    (hreturned : call.rest.finished = true) :
    (ended.store = first.store ∧ ∀ kid, call.req ≠ .publicKey kid) ∨
    (call.req = .newAWSKeyStore ∧
      ∃ privateKey currentKeyID publicKeys,
        Construction cfg permits first.store ended.store privateKey
          currentKeyID publicKeys) ∨
    ∃ kid keyStore outcome, call.req = .publicKey kid ∧
      first.store.keyStore = some keyStore ∧
      publicKeyOutcome call = some outcome ∧
      WholeCall cfg permits id first.store keyStore kid events ended.store
        outcome := by
  cases hrest : call.rest with
  | call op next =>
      rw [hrest] at hreturned
      cases hreturned
  | pure outcome =>
      have hpost := hreach.post_of_returned (sat_program cfg) hwhole.lookup
        hrest
      rw [hwhole.history] at hpost
      cases hreq : call.req with
      | newAWSKeyStore =>
          rw [hreq] at hpost
          cases outcome with
          | newAWSKeyStore outcome =>
              rcases construction_of_constructed hpost hwhole.alone with
                ⟨hsame, -⟩ | ⟨-, hconstruction⟩
              · exact Or.inl ⟨hsame, fun kid hkid => by cases hkid⟩
              · exact Or.inr (Or.inl ⟨rfl, hconstruction⟩)
          | signingKey | publicKey => exact hpost.elim
      | signingKey =>
          rw [hreq] at hpost
          cases outcome with
          | signingKey outcome =>
              obtain ⟨keyStore, hhistory, -⟩ := hpost
              refine Or.inl ⟨eq_of_unchanging hwhole.alone ?_,
                fun kid hkid => by cases hkid⟩
              rw [hhistory]
              simp [installs]
          | newAWSKeyStore | publicKey => exact hpost.elim
      | publicKey kid =>
          rw [hreq] at hpost
          cases outcome with
          | publicKey outcome =>
              obtain ⟨keyStore, hkeyStore, hcall⟩ :=
                wholeCall_of_answered hpost hwhole.alone
              exact Or.inr (Or.inr ⟨kid, keyStore, outcome, rfl, hkeyStore,
                by rw [publicKeyOutcome, hrest], hcall⟩)
          | newAWSKeyStore | signingKey => exact hpost.elim

/-- A whole `PublicKey` call. -/
theorem wholeCall_of_whole {kid : String}
    (hreach : (machine cfg).Reach admissible (start clock parameters secrets)
      ended)
    (hwhole : Whole (machine cfg) permits first ended id call events)
    (hreturned : call.rest.finished = true)
    (hreq : call.req = .publicKey kid) :
    ∃ keyStore outcome, first.store.keyStore = some keyStore ∧
      publicKeyOutcome call = some outcome ∧
      WholeCall cfg permits id first.store keyStore kid events ended.store
        outcome := by
  rcases whole_cases hreach hwhole hreturned with ⟨-, hother⟩ |
    ⟨hother, -⟩ | ⟨other, keyStore, outcome, hother, hfacts⟩
  · exact (hother kid hreq).elim
  · rw [hreq] at hother
    cases hother
  · rw [hreq] at hother
    cases hother
    exact ⟨keyStore, outcome, hfacts⟩

/-- The operations of a `PublicKey` call can be performed on a constructed key
store. -/
theorem perform_isSome {store : Store} {kid : String} {older : History}
    {op : Op} (hguard : publicKeyGuard cfg kid older op)
    (hkeyStore : store.keyStore.isSome = true) :
    (perform op .ok store).isSome = true := by
  cases op with
  | getParameter | getSecretValue | newKeyStore => exact hguard.elim
  | getParametersByPath path => rfl
  | _ => simpa [perform] using hkeyStore

section Serving

variable {kid : String}

/-- A call is made and served, and nothing else happens meanwhile. -/
theorem reach_serving {req : Request}
    (hreach : (machine cfg).Reach admissible (start clock parameters secrets)
      first)
    (hstart : admissible first (.start id req))
    (hexec : ∀ current label, onlyExec current label →
      admissible current label)
    (harrives : first.calls.lookup id = none)
    (hended : (machine cfg).Reach onlyExec
      (first.startCall (machine cfg) id req) ended) :
    (machine cfg).Reach admissible (start clock parameters secrets) ended := by
  have harrival : (machine cfg).step first (.start id req) =
      some (first.startCall (machine cfg) id req) := by
    simp [Machine.step, harrives]
  exact (hreach.step hstart harrival).trans (hended.mono hexec)

/-- Such a call is a whole one. -/
theorem whole_serving {req : Request} (hquiescent : quiescent first = true)
    (harrives : first.calls.lookup id = none)
    (hended : (machine cfg).Reach onlyExec
      (first.startCall (machine cfg) id req) ended) :
    ∃ call events,
      Whole (machine cfg) (fun _ _ _ _ => True) first ended id call events ∧
      call.req = req :=
  whole_of_reach (fun _ _ _ _ => True) (fun _ _ hallowed => hallowed)
    (fun _ _ _ _ _ _ _ _ _ => trivial) hquiescent harrives hended

theorem keyStore_isSome_of_onlyExec
    (hkeyStore : first.store.keyStore.isSome = true)
    (hended : (machine cfg).Reach onlyExec first ended) :
    ended.store.keyStore.isSome = true := by
  refine Machine.Reach.invariant (I := fun pool =>
    pool.store.keyStore.isSome = true) hkeyStore ?_ ?_ ?_ hended
  · intro current other req _ _ _ hallowed
    exact hallowed.elim
  · intro current other choice call op next response after _ ih _ _ hperform _
    have heffect : Effect current.store ⟨op, response⟩ after :=
      effect_of_perform hperform
    change after.keyStore.isSome = true
    cases heffect with
    | kept => exact ih
    | _ => rfl
  · intro current change after _ _ _ hallowed
    exact hallowed.elim

/-- A call that is made on a constructed key store returns. -/
theorem returns_of_constructed
    (hreach : (machine cfg).Reach admissible (start clock parameters secrets)
      first)
    (hquiescent : quiescent first = true)
    (harrives : first.calls.lookup id = none)
    (hkeyStore : first.store.keyStore.isSome = true) :
    ∃ ended returned, (machine cfg).Reach onlyExec
        (first.startCall (machine cfg) id (.publicKey kid)) ended ∧
      ended.calls.lookup id = some returned ∧
      returned.req = .publicKey kid ∧ returned.rest.finished = true := by
  have hlookup : (first.startCall (machine cfg) id
      (.publicKey kid)).calls.lookup id =
        some ⟨.publicKey kid, [], program cfg (.publicKey kid)⟩ :=
    AList.lookup_insert _
  refine exists_returned hlookup ?_
  intro reached op hreached hnext
  obtain ⟨call, events, hwhole, hreq⟩ :=
    whole_serving hquiescent harrives hreached
  obtain ⟨next, hrest⟩ := rest_of_nextOp hwhole.lookup hnext
  have hany : (machine cfg).Reach anyStep (start clock parameters secrets)
      first := hreach.mono fun _ _ _ => trivial
  have hguard := (reach_serving hany trivial (fun _ _ _ => trivial) harrives
    hreached).guard_next (sat_program cfg) hwhole.lookup hrest
  rw [hreq] at hguard
  have hconstructed : (first.startCall (machine cfg) id
    (.publicKey kid)).store.keyStore.isSome = true := hkeyStore
  exact ⟨.ok, trivial, perform_isSome hguard
    (keyStore_isSome_of_onlyExec hconstructed hreached)⟩

end Serving

end Calls

end MessagingPlatform.WholeKeyCalls
