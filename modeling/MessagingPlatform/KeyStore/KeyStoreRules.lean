import MessagingPlatform.KeyStore.AWSKeyStore

/-!
# What the key store has done

The history logic of the key store's methods.  The guard of an operation says
which reads and fetches a call has made before it; the answer of `PublicKey`
is determined by them.
-/

namespace MessagingPlatform.KeyStoreRules

open Program
open Interleaving
open Instants
open Errors
open AWSKeyStore

section Definitions

variable (cfg : KeyConfig)

/-- The fetch of all public keys. -/
def fetch : Op := .getParametersByPath ssmPublicKeysPathPrefix

/-- The first read of a `PublicKey` call. -/
def looked (now : Time) (keyStore : KeyStore) : Entry :=
  ⟨.rlockNow, (now, keyStore)⟩

/-- A fetch that the loop over its parameters accepts. -/
def loads (answer : Except GoError GetParametersByPathOutput)
    (publicKeys : KeyMap) : Prop :=
  ∃ output, answer = .ok output ∧ keysOf cfg output = .ok publicKeys

/-- A refresh that has failed. -/
def unloaded (answer : Except GoError GetParametersByPathOutput) : Prop :=
  ∀ publicKeys, ¬ loads cfg answer publicKeys

/-- The keys that an operation has loaded. -/
def loadedKeys : Entry → Option KeyMap
  | ⟨.getParametersByPath _, .ok output⟩ => (keysOf cfg output).toOption
  | _ => none

/-- A refresh of an expired cache, up to the read of its result. -/
def refreshedEntries (now : Time) (keyStore : KeyStore)
    (answer : Except GoError GetParametersByPathOutput)
    (publicKeys : KeyMap) (refreshed : KeyStore) : History :=
  [⟨.rlock, refreshed⟩, ⟨.setPublicKeys publicKeys, ()⟩, ⟨fetch, answer⟩,
    looked now keyStore]

/-- What a call has done before it checks the cooldown: it has not found the
key, in a fresh cache or in the one it has refreshed. -/
inductive Missed (kid : String) (now : Time) : History → Prop
  | fresh (keyStore : KeyStore) (hfresh : keyStore.cacheExpired now = false)
      (hmissing : keyStore.publicKeys.lookup kid = none) :
      Missed kid now [looked now keyStore]
  | refreshed (keyStore : KeyStore)
      (answer : Except GoError GetParametersByPathOutput)
      (publicKeys : KeyMap) (refreshed : KeyStore)
      (hexpired : keyStore.cacheExpired now = true)
      (hloads : loads cfg answer publicKeys)
      (hmissing : refreshed.publicKeys.lookup kid = none) :
      Missed kid now
        (refreshedEntries now keyStore answer publicKeys refreshed)

/-- The cooldown of unknown key ids is over. -/
def coolingOver (now : Time) (keyStore : KeyStore) : Prop :=
  ¬ sub now keyStore.lastUnknownKidRefresh ≤ keyStore.kidCooldown

/-- What a call has done before it fetches because of an unknown key id. -/
def Unknown (kid : String) (older : History) : Prop :=
  ∃ now checked missed, Missed cfg kid now missed ∧ coolingOver now checked ∧
    older = ⟨.rlock, checked⟩ :: missed

/-- What a call has done before it fetches because its cache has expired. -/
def Expired (older : History) : Prop :=
  ∃ now keyStore, keyStore.cacheExpired now = true ∧
    older = [looked now keyStore]

/-- The operations of `PublicKey`. -/
def publicKeyGuard (kid : String) (older : History) : Op → Prop
  | .rlockNow => older = []
  | .rlock => older ≠ []
  | .getParametersByPath path => path = ssmPublicKeysPathPrefix ∧
      (Expired older ∨ Unknown cfg kid older)
  | .setPublicKeys publicKeys => ∃ answer earlier, Expired earlier ∧
      loads cfg answer publicKeys ∧ older = ⟨fetch, answer⟩ :: earlier
  | .setPublicKeysWithCooldown publicKeys => ∃ answer earlier,
      Unknown cfg kid earlier ∧ loads cfg answer publicKeys ∧
      older = ⟨fetch, answer⟩ :: earlier
  | _ => False

/-- The answers of `PublicKey`, each with what the call has done. -/
inductive Answered (kid : String) :
    History → Except GoError String → Prop
  | cached (now : Time) (keyStore : KeyStore) (pk : String)
      (hfresh : keyStore.cacheExpired now = false)
      (hfound : keyStore.publicKeys.lookup kid = some pk) :
      Answered kid [looked now keyStore] (.ok pk)
  | refreshed (now : Time) (keyStore : KeyStore)
      (answer : Except GoError GetParametersByPathOutput)
      (publicKeys : KeyMap) (refreshed : KeyStore) (pk : String)
      (hexpired : keyStore.cacheExpired now = true)
      (hloads : loads cfg answer publicKeys)
      (hfound : refreshed.publicKeys.lookup kid = some pk) :
      Answered kid
        (refreshedEntries now keyStore answer publicKeys refreshed) (.ok pk)
  | discovered (answer : Except GoError GetParametersByPathOutput)
      (publicKeys : KeyMap) (refreshed : KeyStore) (pk : String)
      (earlier : History) (hunknown : Unknown cfg kid earlier)
      (hloads : loads cfg answer publicKeys)
      (hfound : refreshed.publicKeys.lookup kid = some pk) :
      Answered kid (⟨.rlock, refreshed⟩ ::
        ⟨.setPublicKeysWithCooldown publicKeys, ()⟩ :: ⟨fetch, answer⟩ ::
          earlier) (.ok pk)
  | outage (answer : Except GoError GetParametersByPathOutput)
      (earlier : History) (err : GoError)
      (hearlier : Expired earlier ∨ Unknown cfg kid earlier)
      (hfailed : unloaded cfg answer) :
      Answered kid (⟨fetch, answer⟩ :: earlier) (.error err)
  | cooling (now : Time) (checked : KeyStore) (missed : History)
      (err : GoError) (hmissed : Missed cfg kid now missed)
      (hcooling : sub now checked.lastUnknownKidRefresh ≤
        checked.kidCooldown) :
      Answered kid (⟨.rlock, checked⟩ :: missed) (.error err)
  | unknown (answer : Except GoError GetParametersByPathOutput)
      (publicKeys : KeyMap) (refreshed : KeyStore) (earlier : History)
      (err : GoError) (hunknown : Unknown cfg kid earlier)
      (hloads : loads cfg answer publicKeys)
      (hmissing : refreshed.publicKeys.lookup kid = none) :
      Answered kid (⟨.rlock, refreshed⟩ ::
        ⟨.setPublicKeysWithCooldown publicKeys, ()⟩ :: ⟨fetch, answer⟩ ::
          earlier) (.error err)

/-- The operations of the constructor. -/
def constructorGuard (older : History) : Op → Prop
  | .getParameter _ => older = []
  | .getSecretValue _ => ∃ parameter,
      older = [⟨.getParameter ssmCurrentKeyIDPath, parameter⟩]
  | .getParametersByPath path => path = ssmPublicKeysPathPrefix ∧
      ∀ entry ∈ older, entry.1 ≠ fetch
  | .newKeyStore _ _ publicKeys => ∃ answer earlier,
      loads cfg answer publicKeys ∧ older = ⟨fetch, answer⟩ :: earlier
  | _ => False

/-- The operations of a request. -/
def guard : Request → History → Op → Prop
  | .newAWSKeyStore => constructorGuard cfg
  | .signingKey => fun older op => older = [] ∧ op = .rlock
  | .publicKey kid => publicKeyGuard cfg kid

/-- The public keys that an operation installs. -/
def installs : Op → Option KeyMap
  | .newKeyStore _ _ publicKeys => some publicKeys
  | .setPublicKeys publicKeys => some publicKeys
  | .setPublicKeysWithCooldown publicKeys => some publicKeys
  | _ => none

/-- What the constructor has done when it returns: it has made a key store of
what the three services answered, or nothing. -/
inductive Constructed : History → Except GoError Unit → Prop
  | constructed (parameter : Parameter)
      (currentKeyID secretString privateKey : String)
      (answer : Except GoError GetParametersByPathOutput)
      (publicKeys : KeyMap) (hvalue : parameter.value = some currentKeyID)
      (hprivateKey : parseRSAPrivateKey cfg secretString = .ok privateKey)
      (hloads : loads cfg answer publicKeys) :
      Constructed
        [⟨.newKeyStore privateKey currentKeyID publicKeys, ()⟩,
          ⟨fetch, answer⟩,
          ⟨.getSecretValue (smSigningKeyPrefix ++ currentKeyID),
            .ok (some secretString)⟩,
          ⟨.getParameter ssmCurrentKeyIDPath, .ok (some parameter)⟩]
        (.ok ())
  | failed (reached : History) (err : GoError)
      (hkeeps : ∀ entry ∈ reached, installs entry.1 = none)
      (hunloaded : ∀ entry ∈ reached, loadedKeys cfg entry = none) :
      Constructed reached (.error err)

/-- What `SigningKey` returns for the key store it reads. -/
def signingKeyOf (keyStore : KeyStore) : Except GoError (String × String) :=
  match keyStore.privateKey with
  | none => .error (.plain "no signing key available")
  | some privateKey => .ok (privateKey, keyStore.currentKeyID)

/-- What a request has done when it returns. -/
def post : Request → History → Outcome → Prop
  | .newAWSKeyStore, reached, .newAWSKeyStore outcome =>
      Constructed cfg reached outcome
  | .signingKey, reached, .signingKey outcome =>
      ∃ keyStore, reached = [⟨.rlock, keyStore⟩] ∧
        outcome = signingKeyOf keyStore
  | .publicKey kid, reached, .publicKey outcome =>
      Answered cfg kid reached outcome
  | _, _, _ => False

end Definitions

section Rules

variable {cfg : KeyConfig} {guard : History → Op → Prop}

theorem loadedKeys_of_loads
    {answer : Except GoError GetParametersByPathOutput} {publicKeys : KeyMap}
    (hloads : loads cfg answer publicKeys) :
    loadedKeys cfg ⟨fetch, answer⟩ = some publicKeys := by
  obtain ⟨output, rfl, hkeys⟩ := hloads
  change (keysOf cfg output).toOption = some publicKeys
  rw [hkeys]
  rfl

theorem loadedKeys_of_unloaded
    {answer : Except GoError GetParametersByPathOutput}
    (hfailed : unloaded cfg answer) :
    loadedKeys cfg ⟨fetch, answer⟩ = none := by
  cases answer with
  | error err => rfl
  | ok output =>
      change (keysOf cfg output).toOption = none
      cases hkeys : keysOf cfg output with
      | error err => rfl
      | ok publicKeys =>
          exact (hfailed publicKeys ⟨output, rfl, hkeys⟩).elim

theorem sat_request {op : Op} {post : History → op.Res → Prop}
    {older : History} (hguard : guard older op)
    (hpost : ∀ response, post (⟨op, response⟩ :: older) response) :
    Sat guard post (Prog.perform op) older :=
  ⟨hguard, hpost⟩

theorem sat_loadPublicKeysFromSSM
    {post : History → Except GoError KeyMap → Prop} (older : History)
    (hguard : guard older fetch)
    (hok : ∀ answer publicKeys, loads cfg answer publicKeys →
      post (⟨fetch, answer⟩ :: older) (.ok publicKeys))
    (herror : ∀ answer err, unloaded cfg answer →
      post (⟨fetch, answer⟩ :: older) (.error err)) :
    Sat guard post (loadPublicKeysFromSSM cfg) older := by
  unfold loadPublicKeysFromSSM
  rw [sat_bind]
  refine sat_request hguard fun answer => ?_
  cases answer with
  | error err =>
      refine herror (.error err) _ ?_
      rintro publicKeys ⟨output, houtput, -⟩
      cases houtput
  | ok output =>
      change post _ (keysOf cfg output)
      cases hkeys : keysOf cfg output with
      | ok publicKeys =>
          exact hok (.ok output) publicKeys ⟨output, rfl, hkeys⟩
      | error err =>
          refine herror (.ok output) err ?_
          rintro publicKeys ⟨found, hfound, hloads⟩
          cases hfound
          rw [hkeys] at hloads
          cases hloads

theorem sat_refreshPublicKeys
    {post : History → Except GoError Unit → Prop} (older : History)
    (hfetch : guard older fetch)
    (hset : ∀ answer publicKeys, loads cfg answer publicKeys →
      guard (⟨fetch, answer⟩ :: older) (.setPublicKeys publicKeys))
    (hok : ∀ answer publicKeys, loads cfg answer publicKeys →
      post (⟨.setPublicKeys publicKeys, ()⟩ :: ⟨fetch, answer⟩ :: older)
        (.ok ()))
    (herror : ∀ answer err, unloaded cfg answer →
      post (⟨fetch, answer⟩ :: older) (.error err)) :
    Sat guard post (refreshPublicKeys cfg) older := by
  unfold refreshPublicKeys
  rw [sat_bind]
  refine sat_loadPublicKeysFromSSM older hfetch ?_ ?_
  · intro answer publicKeys hloads
    exact ⟨hset answer publicKeys hloads,
      fun _ => hok answer publicKeys hloads⟩
  · intro answer err hfailed
    exact herror answer _ hfailed

theorem sat_refreshPublicKeysWithCooldown
    {post : History → Except GoError Unit → Prop} (older : History)
    (hfetch : guard older fetch)
    (hset : ∀ answer publicKeys, loads cfg answer publicKeys →
      guard (⟨fetch, answer⟩ :: older)
        (.setPublicKeysWithCooldown publicKeys))
    (hok : ∀ answer publicKeys, loads cfg answer publicKeys →
      post (⟨.setPublicKeysWithCooldown publicKeys, ()⟩ ::
        ⟨fetch, answer⟩ :: older) (.ok ()))
    (herror : ∀ answer err, unloaded cfg answer →
      post (⟨fetch, answer⟩ :: older) (.error err)) :
    Sat guard post (refreshPublicKeysWithCooldown cfg) older := by
  unfold refreshPublicKeysWithCooldown
  rw [sat_bind]
  refine sat_loadPublicKeysFromSSM older hfetch ?_ ?_
  · intro answer publicKeys hloads
    exact ⟨hset answer publicKeys hloads,
      fun _ => hok answer publicKeys hloads⟩
  · intro answer err hfailed
    exact herror answer _ hfailed

end Rules

section Methods

variable {cfg : KeyConfig}

theorem sat_unknownKid (kid : String) (now : Time) (missed : History)
    (hmissed : Missed cfg kid now missed) :
    Sat (publicKeyGuard cfg kid) (Answered cfg kid) (unknownKid cfg now kid)
      missed := by
  have hnonempty : missed ≠ [] := by
    cases hmissed <;> exact List.cons_ne_nil _ _
  unfold unknownKid
  rw [sat_bind]
  refine sat_request hnonempty fun checked => ?_
  by_cases hcooling : sub now checked.lastUnknownKidRefresh ≤
      checked.kidCooldown
  · rw [if_pos hcooling]
    exact .cooling now checked missed _ hmissed hcooling
  · rw [if_neg hcooling, sat_bind]
    have hunknown : Unknown cfg kid (⟨.rlock, checked⟩ :: missed) :=
      ⟨now, checked, missed, hmissed, hcooling, rfl⟩
    refine sat_refreshPublicKeysWithCooldown _ ⟨rfl, Or.inr hunknown⟩ ?_ ?_ ?_
    · intro answer publicKeys hloads
      exact ⟨answer, _, hunknown, hloads, rfl⟩
    · intro answer publicKeys hloads
      dsimp only
      rw [sat_bind]
      refine sat_request (List.cons_ne_nil _ _) fun refreshed => ?_
      cases hlookup : refreshed.publicKeys.lookup kid with
      | none =>
          exact .unknown answer publicKeys refreshed _ _ hunknown hloads
            hlookup
      | some pk =>
          exact .discovered answer publicKeys refreshed pk _ hunknown hloads
            hlookup
    · intro answer err hfailed
      exact .outage answer _ _ (Or.inr hunknown) hfailed

theorem sat_publicKey (kid : String) :
    Sat (publicKeyGuard cfg kid) (Answered cfg kid) (publicKey cfg kid)
      [] := by
  unfold publicKey
  rw [sat_bind]
  refine sat_request rfl fun first => ?_
  obtain ⟨now, keyStore⟩ := first
  dsimp only
  cases hexpired : keyStore.cacheExpired now with
  | false =>
      rw [if_neg Bool.false_ne_true]
      cases hlookup : keyStore.publicKeys.lookup kid with
      | none =>
          exact sat_unknownKid kid now _ (.fresh keyStore hexpired hlookup)
      | some pk => exact .cached now keyStore pk hexpired hlookup
  | true =>
      rw [if_pos rfl, sat_bind]
      have hearlier : Expired [looked now keyStore] :=
        ⟨now, keyStore, hexpired, rfl⟩
      refine sat_refreshPublicKeys _ ⟨rfl, Or.inl hearlier⟩ ?_ ?_ ?_
      · intro answer publicKeys hloads
        exact ⟨answer, _, hearlier, hloads, rfl⟩
      · intro answer publicKeys hloads
        dsimp only
        rw [sat_bind]
        refine sat_request (List.cons_ne_nil _ _) fun refreshed => ?_
        cases hlookup : refreshed.publicKeys.lookup kid with
        | none =>
            exact sat_unknownKid kid now _
              (.refreshed keyStore answer publicKeys refreshed hexpired hloads
                hlookup)
        | some pk =>
            exact .refreshed now keyStore answer publicKeys refreshed pk
              hexpired hloads hlookup
      · intro answer err hfailed
        exact .outage answer _ _ (Or.inl hearlier) hfailed

/-- A construction that fails before the fetch has neither installed nor loaded
anything. -/
theorem Constructed.early {reached : History} {err : GoError}
    (hquiet : ∀ entry ∈ reached,
      installs entry.1 = none ∧ loadedKeys cfg entry = none) :
    Constructed cfg reached (.error err) :=
  .failed _ _ (fun entry hentry => (hquiet entry hentry).1)
    fun entry hentry => (hquiet entry hentry).2

theorem sat_newAWSKeyStore :
    Sat (constructorGuard cfg) (Constructed cfg) (newAWSKeyStore cfg) [] := by
  unfold newAWSKeyStore
  rw [sat_bind]
  refine sat_request rfl fun parameter => ?_
  match parameter with
  | .error err => exact .early (by simp [installs, loadedKeys])
  | .ok none => exact .early (by simp [installs, loadedKeys])
  | .ok (some ⟨name, none⟩) => exact .early (by simp [installs, loadedKeys])
  | .ok (some ⟨name, some currentKeyID⟩) =>
      dsimp only [Option.bind_some]
      rw [sat_bind]
      refine sat_request ⟨_, rfl⟩ fun secret => ?_
      match secret with
      | .error err => exact .early (by simp [installs, loadedKeys])
      | .ok none => exact .early (by simp [installs, loadedKeys])
      | .ok (some secretString) =>
          dsimp only
          cases hprivateKey : parseRSAPrivateKey cfg secretString with
          | error err => exact .early (by simp [installs, loadedKeys])
          | ok privateKey =>
              dsimp only
              rw [sat_bind]
              refine sat_loadPublicKeysFromSSM _ ⟨rfl, by simp [fetch]⟩ ?_ ?_
              · intro answer publicKeys hloads
                exact ⟨⟨answer, _, hloads, rfl⟩, fun _ =>
                  .constructed ⟨name, some currentKeyID⟩ currentKeyID
                    secretString privateKey answer publicKeys rfl hprivateKey
                    hloads⟩
              · intro answer err hfailed
                refine .failed _ _ (by simp [installs, fetch]) ?_
                rw [List.forall_mem_cons]
                exact ⟨loadedKeys_of_unloaded hfailed, by simp [loadedKeys]⟩

theorem sat_signingKey :
    Sat (fun older op => older = [] ∧ op = .rlock)
      (fun reached outcome => ∃ keyStore, reached = [⟨.rlock, keyStore⟩] ∧
        outcome = signingKeyOf keyStore) signingKey [] := by
  unfold signingKey
  rw [sat_bind]
  refine ⟨⟨rfl, rfl⟩, fun keyStore => ?_⟩
  obtain ⟨privateKey, _, _, _, _, _, _⟩ := keyStore
  cases privateKey with
  | none | some => exact ⟨_, rfl, rfl⟩

/-- Every operation of a request is one that its guard describes. -/
theorem sat_program (cfg : KeyConfig) (req : Request) :
    Sat (guard cfg req) (post cfg req) (program cfg req) [] := by
  cases req with
  | newAWSKeyStore =>
      change Sat (constructorGuard cfg) _ (newAWSKeyStore cfg >>= _) []
      rw [sat_bind]
      exact sat_newAWSKeyStore
  | signingKey =>
      change Sat (fun older op => older = [] ∧ op = .rlock) _
        (signingKey >>= _) []
      rw [sat_bind]
      exact sat_signingKey
  | publicKey kid =>
      change Sat (publicKeyGuard cfg kid) _ (publicKey cfg kid >>= _) []
      rw [sat_bind]
      exact sat_publicKey kid

end Methods

end MessagingPlatform.KeyStoreRules
