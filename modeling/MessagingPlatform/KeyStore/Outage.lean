import MessagingPlatform.KeyStore.Withdrawal

/-!
# SSM outages

A failed refresh leaves the fields of the key store as they are.  The keys
that were loaded last are returned as long as the cache is fresh; a call that
finds the cache expired and whose refresh fails returns the error and not the
cached key.
-/

namespace MessagingPlatform.Outage

open Program
open Interleaving
open Instants
open Errors
open MessagingPlatform.Sequential
open AtOnce
open AWSKeyStore
open KeyStoreRules
open KeyStoreRuns
open LoadedKeys
open WholeKeyCalls
open Discovery
open Withdrawal

section Definitions

variable (cfg : KeyConfig)

/-- The map that was loaded last. -/
def lastLoaded (log : List Event) : Option KeyMap :=
  log.findSome? fun event => loadedKeys cfg event.entry

/-- The map that was installed last. -/
def lastInstalled (log : List Event) : Option KeyMap :=
  log.findSome? fun event => installs event.entry.1

/-- A refresh that fails: SSM answers with an error, or with a list that does
not parse. -/
def failedRefresh : Entry → Bool
  | ⟨.getParametersByPath path, answer⟩ =>
      (loadedKeys cfg ⟨.getParametersByPath path, answer⟩).isNone
  | _ => false

/-- The call has found the cache expired and its refresh has failed. -/
def ExpiryOutage (history : History) : Prop :=
  ∃ entry now keyStore, history = [entry, looked now keyStore] ∧
    keyStore.cacheExpired now = true ∧ failedRefresh cfg entry = true

end Definitions

variable {cfg : KeyConfig} {admissible : Pool → Label → Prop} {clock : Time}
variable {parameters : List Parameter}
variable {secrets : List (String × Option String)} {pool : Pool}

section Loads

theorem failedRefresh_of_loads
    {answer : Except GoError GetParametersByPathOutput} {publicKeys : KeyMap}
    (hloads : loads cfg answer publicKeys) :
    failedRefresh cfg ⟨fetch, answer⟩ = false := by
  change (loadedKeys cfg ⟨fetch, answer⟩).isNone = false
  rw [loadedKeys_of_loads hloads]
  rfl

theorem failedRefresh_of_unloaded
    {answer : Except GoError GetParametersByPathOutput}
    (hfailed : unloaded cfg answer) :
    failedRefresh cfg ⟨fetch, answer⟩ = true := by
  change (loadedKeys cfg ⟨fetch, answer⟩).isNone = true
  rw [loadedKeys_of_unloaded hfailed]
  rfl

/-- The public keys of the key store were installed last. -/
theorem lastInstalled_of_reach
    (hreach : (machine cfg).Reach admissible (start clock parameters secrets)
      pool) {keyStore : KeyStore}
    (hkeyStore : pool.store.keyStore = some keyStore) :
    lastInstalled pool.log = some keyStore.publicKeys := by
  have hbase : (machine cfg).Reach anyStep (start clock parameters secrets)
      (start clock parameters secrets) := .refl
  refine invariant_from (I := fun pool => ∀ keyStore,
    pool.store.keyStore = some keyStore →
      lastInstalled pool.log = some keyStore.publicKeys) hbase
    ?_ ?_ ?_ ?_ hreach keyStore hkeyStore
  · intro keyStore hkeyStore
    cases hkeyStore
  · intro pool id req _ ih _
    exact ih
  · intro pool id choice call op next response after _ ih hexec _ _ keyStore
      hkeyStore
    change List.findSome? _ (_ :: pool.log) = _
    rw [List.findSome?_cons]
    rcases keyStore_of_effect hexec.effect hkeyStore with
      ⟨hkeeps, hbefore⟩ | ⟨hinstalls, -⟩
    · rw [hkeeps]
      exact ih keyStore hbefore
    · rw [hinstalls]
  · intro pool change after _ ih hadvance _ keyStore hkeyStore
    rw [(framed_of_advance hadvance).keyStore] at hkeyStore
    exact ih keyStore hkeyStore

/-- A fetch that loads is the last load. -/
theorem findSome_of_loads
    {answer : Except GoError GetParametersByPathOutput} {publicKeys : KeyMap}
    (hloads : loads cfg answer publicKeys) (earlier : History) :
    List.findSome? (loadedKeys cfg) ((⟨fetch, answer⟩ : Entry) :: earlier) =
      some publicKeys := by
  rw [List.findSome?_cons, loadedKeys_of_loads hloads]

/-- What a call has loaded before its cooldown check, it has installed. -/
theorem installs_of_missed {kid : String} {now : Time} {missed : History}
    (hmissed : Missed cfg kid now missed) :
    missed.findSome? (loadedKeys cfg) =
      missed.findSome? (fun entry => installs entry.1) := by
  cases hmissed with
  | fresh => rfl
  | refreshed keyStore answer publicKeys refreshed _ hloads _ =>
      exact findSome_of_loads hloads _

theorem installs_of_unknown {kid : String} {earlier : History}
    (hunknown : Unknown cfg kid earlier) :
    earlier.findSome? (loadedKeys cfg) =
      earlier.findSome? (fun entry => installs entry.1) := by
  obtain ⟨now, checked, missed, hmissed, -, rfl⟩ := hunknown
  change missed.findSome? _ = missed.findSome? _
  exact installs_of_missed hmissed

/-- What a returned call has loaded last is what it has installed last. -/
theorem installs_of_answered {kid : String} {history : History}
    {outcome : Except GoError String}
    (hanswered : Answered cfg kid history outcome) :
    history.findSome? (loadedKeys cfg) =
      history.findSome? (fun entry => installs entry.1) := by
  cases hanswered with
  | cached => rfl
  | refreshed now keyStore answer publicKeys refreshed _ _ hloads _
  | discovered answer publicKeys _ _ earlier _ hloads _
  | unknown answer publicKeys _ earlier _ _ hloads _ =>
      exact findSome_of_loads hloads _
  | outage answer earlier _ hearlier hfailed =>
      rw [List.findSome?_cons, loadedKeys_of_unloaded hfailed]
      rcases hearlier with ⟨now, keyStore, -, rfl⟩ | hunknown
      · rfl
      · exact installs_of_unknown hunknown
  | cooling now checked missed _ hmissed _ =>
      change missed.findSome? _ = missed.findSome? _
      exact installs_of_missed hmissed

theorem installs_of_constructed {history : History}
    {outcome : Except GoError Unit}
    (hconstructed : Constructed cfg history outcome) :
    history.findSome? (loadedKeys cfg) =
      history.findSome? (fun entry => installs entry.1) := by
  cases hconstructed with
  | constructed _ _ _ _ answer publicKeys _ _ hloads =>
      exact findSome_of_loads hloads _
  | failed _ _ hkeeps hunloaded =>
      rw [List.findSome?_eq_none_iff.mpr hunloaded,
        List.findSome?_eq_none_iff.mpr hkeeps]

theorem installs_of_post {req : Request} {history : History}
    {outcome : Outcome} (hpost : post cfg req history outcome) :
    history.findSome? (loadedKeys cfg) =
      history.findSome? (fun entry => installs entry.1) := by
  cases req with
  | newAWSKeyStore =>
      cases outcome with
      | newAWSKeyStore outcome => exact installs_of_constructed hpost
      | _ => exact hpost.elim
  | signingKey =>
      cases outcome with
      | signingKey outcome =>
          obtain ⟨keyStore, rfl, -⟩ := hpost
          rfl
      | _ => exact hpost.elim
  | publicKey kid =>
      cases outcome with
      | publicKey outcome => exact installs_of_answered hpost
      | _ => exact hpost.elim

/-- Between whole calls, what was loaded last is what was installed last. -/
theorem lastLoaded_eq_lastInstalled
    (hreach : (machine cfg).Reach atOnce (start clock parameters secrets) pool)
    (hquiescent : quiescent pool = true) :
    lastLoaded cfg pool.log = lastInstalled pool.log := by
  refine atOnce_invariant (I := fun pool =>
    lastLoaded cfg pool.log = lastInstalled pool.log) (fun _ _ _ _ => True)
    (fun _ _ hallowed => hallowed) (fun _ _ _ _ _ _ _ _ _ => trivial) ?_ ?_
    rfl rfl hreach hquiescent
  · intro before ended id call events _ hended hbefore hwhole hreturned
    cases hrest : call.rest with
    | call op next =>
        rw [hrest] at hreturned
        cases hreturned
    | pure outcome =>
        have hinstalls := installs_of_post
          (hended.post_of_returned (sat_program cfg) hwhole.lookup hrest)
        rw [hwhole.history, List.findSome?_map, List.findSome?_map]
          at hinstalls
        rw [lastLoaded, lastInstalled, hwhole.log, List.findSome?_append,
          List.findSome?_append]
        exact congrArg₂ Option.or hinstalls hbefore
  · intro current change after _ hcurrent _ _
    exact hcurrent

end Loads

section Calls

variable {permits : History → Op → Choice → Store → Prop} {id : ℕ}
variable {before reached : Store} {keyStore found after : KeyStore}
variable {events : List Event} {kid pk : String}
variable {outcome : Except GoError String}

theorem keyStore_of_missing
    (hmissing : Missing cfg permits id before keyStore kid events reached
      found) (hkeyStore : before.keyStore = some keyStore) :
    reached.keyStore = some found := by
  cases hmissing with
  | fresh => exact hkeyStore
  | refreshed => rfl

theorem failedRefresh_of_missing
    (hmissing : Missing cfg permits id before keyStore kid events reached
      found) : ∀ event ∈ events, failedRefresh cfg event.entry = false := by
  cases hmissing with
  | fresh => simp [looking, looked, failedRefresh]
  | refreshed answer publicKeys _ _ hloads _ =>
      have hfetch := failedRefresh_of_loads hloads
      simp only [rereading, refreshing, List.forall_mem_cons]
      exact ⟨rfl, rfl, hfetch, rfl, by simp⟩

/-- From a failed refresh to the return of its call the fields stay as they
are. -/
theorem keyStore_of_failedRefresh
    (hcall : WholeCall cfg permits id before keyStore kid events reached
      outcome) {event : Event} (hevent : event ∈ events)
    (hfailed : failedRefresh cfg event.entry = true) :
    reached.keyStore = event.before.keyStore := by
  have hfine : ∀ {entry : Entry}, event.entry = entry →
      failedRefresh cfg entry = false →
      reached.keyStore = event.before.keyStore := by
    rintro entry rfl hfalse
    rw [hfailed] at hfalse
    cases hfalse
  cases hcall with
  | cached =>
      rw [List.mem_singleton] at hevent
      exact hfine (congrArg Event.entry hevent) rfl
  | refreshed answer publicKeys _ _ _ hloads _ =>
      simp only [rereading, refreshing, List.mem_cons, List.not_mem_nil,
        or_false] at hevent
      rcases hevent with hevent | hevent | hevent | hevent
      · exact hfine (congrArg Event.entry hevent) rfl
      · exact hfine (congrArg Event.entry hevent) rfl
      · exact hfine (congrArg Event.entry hevent)
          (failedRefresh_of_loads hloads)
      · exact hfine (congrArg Event.entry hevent) rfl
  | outage answer _ _ _ _ =>
      simp only [List.mem_cons, List.not_mem_nil, or_false] at hevent
      rcases hevent with rfl | hevent
      · rfl
      · exact hfine (congrArg Event.entry hevent) rfl
  | cooling missed _ _ _ hmissing _ =>
      rcases List.mem_cons.mp hevent with hevent | hevent
      · exact hfine (congrArg Event.entry hevent) rfl
      · exact hfine rfl (failedRefresh_of_missing hmissing event hevent)
  | failing missed _ _ answer _ hmissing _ _ _ =>
      simp only [List.mem_cons] at hevent
      rcases hevent with rfl | hevent | hevent
      · rfl
      · exact hfine (congrArg Event.entry hevent) rfl
      · exact hfine rfl (failedRefresh_of_missing hmissing event hevent)
  | loaded missed _ _ answer publicKeys _ installed _ _ hmissing _ _ hloads
      hinstalled _ _ _ =>
      rw [hinstalled] at hevent
      simp only [List.mem_cons] at hevent
      rcases hevent with hevent | hevent | hevent | hevent | hevent
      · exact hfine (congrArg Event.entry hevent) rfl
      · exact hfine (congrArg Event.entry hevent) rfl
      · exact hfine (congrArg Event.entry hevent)
          (failedRefresh_of_loads hloads)
      · exact hfine (congrArg Event.entry hevent) rfl
      · exact hfine rfl (failedRefresh_of_missing hmissing event hevent)

/-- A call whose key is in the map that was loaded last returns it, except when
it has found the cache expired and its refresh has failed. -/
theorem ok_iff_of_call
    (hcall : WholeCall cfg permits id before keyStore kid events reached
      outcome)
    (hkeyStore : before.keyStore = some keyStore)
    (hafter : reached.keyStore = some after)
    (hlookup : after.publicKeys.lookup kid = some pk) :
    outcome = .ok pk ↔ ¬ ExpiryOutage cfg (events.map Event.entry) := by
  have hmissed : ∀ {missed : List Event} {found : KeyStore},
      ¬ Missing cfg permits id before keyStore kid missed reached found := by
    intro missed found hmissing
    have hsame := keyStore_of_missing hmissing hkeyStore
    rw [hafter, Option.some.injEq] at hsame
    rw [hsame, hmissing.lookup_none] at hlookup
    cases hlookup
  cases hcall with
  | cached key _ hin =>
      rw [hkeyStore, Option.some.injEq] at hafter
      refine iff_of_true ?_ ?_
      · rw [← hafter, hin, Option.some.injEq] at hlookup
        rw [hlookup]
      · rintro ⟨entry, now, read, hhistory, -⟩
        cases hhistory
  | refreshed answer publicKeys found _ _ hloads hin =>
      cases hafter
      refine iff_of_true ?_ ?_
      · change publicKeys.lookup kid = some pk at hlookup
        rw [hin, Option.some.injEq] at hlookup
        rw [hlookup]
      · rintro ⟨entry, now, read, hhistory, -⟩
        cases hhistory
  | outage answer err hexpired _ hfailed =>
      refine iff_of_false (by simp) (not_not_intro ?_)
      exact ⟨_, before.clock, keyStore, rfl, hexpired,
        failedRefresh_of_unloaded hfailed⟩
  | cooling _ _ _ _ hmissing | failing _ _ _ _ _ hmissing =>
      exact (hmissed hmissing).elim
  | loaded missed middle _ answer publicKeys _ installed _ _ hmissing _ _ _
      hinstalled _ _ houtcome =>
      cases hafter
      change publicKeys.lookup kid = some pk at hlookup
      refine iff_of_true ?_ ?_
      · rcases houtcome with ⟨key, hin, rfl⟩ | ⟨hnone, -⟩
        · rw [hin, Option.some.injEq] at hlookup
          rw [hlookup]
        · rw [hnone] at hlookup
          cases hlookup
      · rintro ⟨entry, now, read, hhistory, -⟩
        rw [hinstalled] at hhistory
        have hlength := congrArg List.length hhistory
        simp at hlength

end Calls

/-- Calls are served at once and SSM answers each fetch in any way.  A failed
refresh leaves the fields as they are until its call returns; a call for a key
of the map that was loaded last returns it, unless it has found the cache
expired and its own refresh has failed; and every call that is made on a
constructed key store returns. -/
theorem cached_key_returned_iff (cfg : KeyConfig) (clock : Time)
    (parameters : List Parameter) (secrets : List (String × Option String))
    (first : Pool) (id : ℕ) (kid : String)
    (hreach : (machine cfg).Reach atOnce (start clock parameters secrets)
      first)
    (hquiescent : quiescent first = true)
    (harrives : first.calls.lookup id = none) :
    (∀ ended call, (machine cfg).Reach onlyExec
        (first.startCall (machine cfg) id (.publicKey kid)) ended →
      ended.calls.lookup id = some call → call.rest.finished = true →
        (∀ events, ended.log = events ++ first.log → ∀ event ∈ events,
          failedRefresh cfg event.entry = true →
            ended.store.keyStore = event.before.keyStore) ∧
        ∀ publicKeys pk, lastLoaded cfg ended.log = some publicKeys →
          publicKeys.lookup kid = some pk →
          (publicKeyOutcome call = some (.ok pk) ↔
            ¬ ExpiryOutage cfg call.history)) ∧
    (first.store.keyStore.isSome = true →
      ∃ ended call, (machine cfg).Reach onlyExec
          (first.startCall (machine cfg) id (.publicKey kid)) ended ∧
        ended.calls.lookup id = some call ∧ call.req = .publicKey kid ∧
        call.rest.finished = true) := by
  refine ⟨?_, returns_of_constructed hreach hquiescent harrives⟩
  intro ended call hended hlookup hreturned
  obtain ⟨served, events, hwhole, hreq⟩ :=
    whole_serving hquiescent harrives hended
  have hsame := hwhole.lookup
  rw [hlookup, Option.some.injEq] at hsame
  subst hsame
  have hall := reach_serving hreach hquiescent
    (fun _ _ hallowed => atOnce_of_onlyExec hallowed) harrives hended
  obtain ⟨keyStore, outcome, hkeyStore, houtcome, hcall⟩ :=
    wholeCall_of_whole hall hwhole hreturned hreq
  constructor
  · intro logged hlog event hevent hfailed
    rw [hwhole.log] at hlog
    rw [← List.append_cancel_right hlog] at hevent
    exact keyStore_of_failedRefresh hcall hevent hfailed
  · intro publicKeys pk hloaded hpk
    have hconstructed : (first.startCall (machine cfg) id
        (.publicKey kid)).store.keyStore.isSome = true :=
      Option.isSome_iff_exists.mpr ⟨keyStore, hkeyStore⟩
    have hpresent := keyStore_isSome_of_onlyExec hconstructed hended
    obtain ⟨after, hafter⟩ := Option.isSome_iff_exists.mp hpresent
    rw [lastLoaded_eq_lastInstalled hall
        (hwhole.quiescent_iff.mpr hreturned),
      lastInstalled_of_reach hall hafter, Option.some.injEq] at hloaded
    subst hloaded
    rw [houtcome, Option.some.injEq, hwhole.history]
    exact ok_iff_of_call hcall hkeyStore hafter hpk

section Schedules

/-- SSM is unavailable while the cache is fresh: a made-up key id makes a
refresh that fails. -/
def shortOutage : Pool :=
  (machine decoders).runTo atOnce (start evening oneKey signingSecrets)
    (constructing ++
      serve 1 (.publicKey "key-999") [.ok, .ok, .fault "ServiceUnavailable"])

def servedInOutage : Pool :=
  (machine decoders).runTo onlyExec
    (shortOutage.startCall (machine decoders) 2 (.publicKey "key-001"))
    [.exec 2 .ok]

/-- SSM is still unavailable when the cache expires. -/
def longOutage : Pool :=
  (machine decoders).runTo atOnce (start evening oneKey signingSecrets)
    (constructing ++ [.env (.tick 301000000000)] ++
      serve 1 (.publicKey "key-001") [.ok, .fault "ServiceUnavailable"])

/-- The map that was loaded last holds the key. -/
def stillCached (log : List Event) (kid : String) : Bool :=
  (lastLoaded decoders log).any fun publicKeys =>
    publicKeys.lookup kid == some publicDER

theorem lookup_of_stillCached {log : List Event} {kid : String}
    (hcached : stillCached log kid = true) :
    ∃ publicKeys, lastLoaded decoders log = some publicKeys ∧
      publicKeys.lookup kid = some publicDER := by
  rw [stillCached, Option.any_eq_true] at hcached
  obtain ⟨publicKeys, hloaded, hlookup⟩ := hcached
  exact ⟨publicKeys, hloaded, beq_iff_eq.mp hlookup⟩

end Schedules

/-- In the short outage the cached key is returned. -/
theorem shortOutage_returns_key :
    ∃ call ∈ servedInOutage.calls.lookup 2,
      publicKeyOutcome call = some (.ok publicDER) := by
  have hrun : quiescent shortOutage = true ∧
      (shortOutage.calls.lookup 2).isNone = true ∧
      stillCached servedInOutage.log "key-001" = true ∧
      ∃ call ∈ servedInOutage.calls.lookup 2, call.rest.finished = true ∧
        call.history.length = 1 := by
    decide +kernel
  obtain ⟨hquiescent, harrives, hcached, call, hcall, hfinished, hlength⟩ :=
    hrun
  obtain ⟨publicKeys, hloaded, hlookup⟩ := lookup_of_stillCached hcached
  have hreturned := ((cached_key_returned_iff decoders evening oneKey
    signingSecrets shortOutage 2 "key-001" (Machine.reach_runTo _) hquiescent
    (Option.isNone_iff_eq_none.mp harrives)).1 servedInOutage call
    (Machine.reach_runTo _) hcall hfinished).2 publicKeys publicDER hloaded
    hlookup
  refine ⟨call, hcall, hreturned.mpr ?_⟩
  rintro ⟨entry, now, keyStore, hhistory, -⟩
  rw [hhistory] at hlength
  cases hlength

/-- In the long one it is not, though the map that was loaded last has it. -/
theorem longOutage_returns_error :
    (machine decoders).Reach atOnce (start evening oneKey signingSecrets)
      longOutage ∧
    (∃ publicKeys, lastLoaded decoders longOutage.log = some publicKeys ∧
      publicKeys.lookup "key-001" = some publicDER) ∧
    ∃ call ∈ longOutage.calls.lookup 1, call.req = .publicKey "key-001" ∧
      call.rest.finished = true ∧ returnsKey call = false := by
  have hrun : stillCached longOutage.log "key-001" = true ∧
      ∃ call ∈ longOutage.calls.lookup 1, call.req = .publicKey "key-001" ∧
        call.rest.finished = true ∧ returnsKey call = false := by
    decide +kernel
  exact ⟨Machine.reach_runTo _, lookup_of_stillCached hrun.1, hrun.2⟩

end MessagingPlatform.Outage
