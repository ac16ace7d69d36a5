import MessagingPlatform.Adapter.AllowedRequests
import MessagingPlatform.Core.OneStep
import MessagingPlatform.Store.Effects

/-!
# The store adapters as single steps

What each adapter does to a store when nothing else happens meanwhile and no
request fails.  Most have one ending; random values and the order of a query
answer leave a choice.
-/

namespace MessagingPlatform.StoreSteps

open Program
open OneStep
open Instants
open Errors
open Records
open Identifiers
open Primitives
open Tables
open Operations
open Effects
open Stores
open StoreRules
open AllowedRequests

/-- What an operation may do under permitted choices. -/
def performs (cfg : AuthServiceConfig) (permits : Choice → Prop) (op : Op)
    (before : Store) (response : op.Res) (after : Store) : Prop :=
  ∃ choice, permits choice ∧
    perform cfg op choice before = some (response, after)

/-- What an operation may do when it does not fail. -/
abbrev steps (cfg : AuthServiceConfig) :
    (op : Op) → Store → op.Res → Store → Prop :=
  performs cfg Choice.unfaulted

variable {cfg : AuthServiceConfig} {permits : Choice → Prop} {A : Type}
variable {before after : Store}

section Combinators

theorem ends_request {op : Op} {outcome : Except GoError op.Res} :
    Ends (performs cfg permits) (request op).run before outcome after ↔
      ∃ response, performs cfg permits op before response after ∧
        outcome = .ok response := by
  unfold request
  rw [ends_run_lift]
  simp only [ends_perform]

theorem ends_request_bind {B : Type} {op : Op} {continueWith : op.Res → Flow B}
    {outcome : Except GoError B} :
    Ends (performs cfg permits) (request op >>= continueWith).run before
        outcome after ↔
      ∃ response middle, performs cfg permits op before response middle ∧
        Ends (performs cfg permits) (continueWith response).run middle outcome
          after := by
  rw [ends_run_bind]
  constructor
  · rintro (⟨err, herror, -⟩ | ⟨value, middle, hvalue, hrest⟩)
    · obtain ⟨response, -, hbad⟩ := ends_request.mp herror
      cases hbad
    · obtain ⟨response, hperforms, heq⟩ := ends_request.mp hvalue
      cases heq
      exact ⟨value, middle, hperforms, hrest⟩
  · rintro ⟨response, middle, hperforms, hrest⟩
    exact .inr ⟨response, middle,
      ends_request.mpr ⟨response, hperforms, rfl⟩, hrest⟩

/-- A request whose answer is no choice of the environment. -/
theorem certain_request {op : Op} {response : op.Res}
    (heffect : ∀ choice, effect cfg op choice before = some (response, after)) :
    Certain (steps cfg) (request op).run before (.ok response) after := by
  apply Certain.run_lift
  intro found reached
  rw [ends_perform]
  constructor
  · rintro ⟨choice, hunfaulted, hperform⟩
    have hsame := effect_of_unfaulted hunfaulted hperform
    rw [heffect] at hsame
    cases hsame
    exact ⟨rfl, rfl⟩
  · rintro ⟨rfl, rfl⟩
    exact ⟨.ok, trivial, heffect .ok⟩

theorem ends_wrapError {wrap : GoError → GoError} {flow : Flow A}
    {outcome : Except GoError A} :
    Ends (performs cfg permits) (wrapError wrap flow).run before outcome
        after ↔
      ∃ inner, Ends (performs cfg permits) flow.run before inner after ∧
        outcome = inner.mapError wrap := by
  unfold wrapError
  rw [ExceptT.run_mk, ends_bind]
  constructor
  · rintro ⟨err | value, middle, hflow, hrest⟩ <;>
    · obtain ⟨rfl, rfl⟩ := ends_pure.mp hrest
      exact ⟨_, hflow, rfl⟩
  · rintro ⟨err | value, hflow, rfl⟩ <;>
    exact ⟨_, after, hflow, ends_pure.mpr ⟨rfl, rfl⟩⟩

theorem ends_attempt {flow : Flow A} {outcome : Except GoError _} :
    Ends (performs cfg permits) (attempt flow).run before outcome after ↔
      ∃ inner, Ends (performs cfg permits) flow.run before inner after ∧
        outcome = .ok inner :=
  ends_run_lift

variable {flow : Flow A} {outcome : Except GoError A}

theorem certain_wrapError (wrap : GoError → GoError)
    (hcertain : Certain (steps cfg) flow.run before outcome after) :
    Certain (steps cfg) (wrapError wrap flow).run before
      (outcome.mapError wrap) after := by
  intro found reached
  rw [ends_wrapError]
  constructor
  · rintro ⟨inner, hinner, rfl⟩
    obtain ⟨rfl, rfl⟩ := (hcertain inner reached).mp hinner
    exact ⟨rfl, rfl⟩
  · rintro ⟨rfl, rfl⟩
    exact ⟨outcome, hcertain.ends, rfl⟩

theorem certain_attempt
    (hcertain : Certain (steps cfg) flow.run before outcome after) :
    Certain (steps cfg) (attempt flow).run before (.ok outcome) after :=
  hcertain.run_lift

/-- The flow succeeds, with just the values and stores of `results`. -/
def Returns (cfg : AuthServiceConfig) (flow : Flow A) (before : Store)
    (results : A → Store → Prop) : Prop :=
  ∀ outcome after, Ends (steps cfg) flow.run before outcome after ↔
    ∃ value, outcome = .ok value ∧ results value after

theorem returns_of_certain {value : A}
    (hcertain : Certain (steps cfg) flow.run before (.ok value) after) :
    Returns cfg flow before fun found reached =>
      found = value ∧ reached = after := by
  intro outcome reached
  rw [hcertain outcome reached]
  constructor
  · rintro ⟨rfl, rfl⟩
    exact ⟨value, rfl, rfl, rfl⟩
  · rintro ⟨found, rfl, rfl, rfl⟩
    exact ⟨rfl, rfl⟩

theorem Returns.congr {results results' : A → Store → Prop}
    (hreturns : Returns cfg flow before results)
    (hsame : ∀ value after, results value after ↔ results' value after) :
    Returns cfg flow before results' := by
  intro outcome after
  rw [hreturns outcome after]
  simp only [hsame]

theorem Returns.wrapError {results : A → Store → Prop}
    {wrap : GoError → GoError} (hreturns : Returns cfg flow before results) :
    Returns cfg (wrapError wrap flow) before results := by
  intro outcome after
  rw [ends_wrapError]
  constructor
  · rintro ⟨inner, hinner, rfl⟩
    obtain ⟨value, rfl, hvalue⟩ := (hreturns inner after).mp hinner
    exact ⟨value, rfl, hvalue⟩
  · rintro ⟨value, rfl, hvalue⟩
    exact ⟨.ok value, (hreturns _ after).mpr ⟨value, rfl, hvalue⟩, rfl⟩

/-- After a flow that succeeds comes what follows it. -/
theorem Returns.bind {B : Type} {continueWith : A → Flow B}
    {results : A → Store → Prop} (hreturns : Returns cfg flow before results)
    (finals : A → Store → B → Store → Prop)
    (hcontinue : ∀ value middle, results value middle →
      Returns cfg (continueWith value) middle (finals value middle)) :
    Returns cfg (flow >>= continueWith) before fun value after =>
      ∃ found middle, results found middle ∧
        finals found middle value after := by
  intro outcome after
  rw [ends_run_bind]
  constructor
  · rintro (⟨err, herror, -⟩ | ⟨found, middle, hfound, hrest⟩)
    · obtain ⟨value, hbad, -⟩ := (hreturns _ _).mp herror
      cases hbad
    · obtain ⟨value, heq, hresult⟩ := (hreturns _ _).mp hfound
      cases heq
      obtain ⟨final, rfl, hfinal⟩ :=
        (hcontinue found middle hresult outcome after).mp hrest
      exact ⟨final, rfl, found, middle, hresult, hfinal⟩
  · rintro ⟨value, rfl, found, middle, hresult, hfinal⟩
    exact .inr ⟨found, middle,
      (hreturns _ _).mpr ⟨found, rfl, hresult⟩,
      (hcontinue found middle hresult _ after).mpr ⟨value, rfl, hfinal⟩⟩

/-- The same, with the answer as a value. -/
theorem Returns.attempt_bind {B : Type}
    {continueWith : Except GoError A → Flow B} {results : A → Store → Prop}
    (hreturns : Returns cfg flow before results)
    (finals : A → Store → B → Store → Prop)
    (hcontinue : ∀ value middle, results value middle →
      Returns cfg (continueWith (.ok value)) middle (finals value middle)) :
    Returns cfg (attempt flow >>= continueWith) before fun value after =>
      ∃ found middle, results found middle ∧
        finals found middle value after := by
  have hattempt : Returns cfg (attempt flow) before fun outcome after =>
      ∃ value, outcome = .ok value ∧ results value after := by
    intro outcome after
    rw [ends_attempt]
    constructor
    · rintro ⟨inner, hinner, rfl⟩
      exact ⟨inner, rfl, (hreturns inner after).mp hinner⟩
    · rintro ⟨inner, rfl, hinner⟩
      exact ⟨inner, (hreturns inner after).mpr hinner, rfl⟩
  refine (hattempt.bind (fun outcome middle value after =>
    ∃ found, outcome = .ok found ∧ finals found middle value after) ?_).congr ?_
  · rintro outcome middle ⟨found, rfl, hfound⟩
    refine (hcontinue found middle hfound).congr fun value after => ?_
    simp
  · intro value after
    constructor
    · rintro ⟨outcome, middle, ⟨found, rfl, hfound⟩, other, heq, hfinal⟩
      cases heq
      exact ⟨found, middle, hfound, hfinal⟩
    · rintro ⟨found, middle, hfound, hfinal⟩
      exact ⟨_, middle, ⟨found, rfl, hfound⟩, found, rfl, hfinal⟩

/-- A request with one answer, and what follows it. -/
theorem Returns.of_certain {B : Type} {continueWith : A → Flow B}
    {finals : B → Store → Prop} {found : A} {middle : Store}
    (hcertain : Certain (steps cfg) flow.run before (.ok found) middle)
    (hcontinue : Returns cfg (continueWith found) middle finals) :
    Returns cfg (flow >>= continueWith) before finals :=
  fun outcome after => hcertain.run_bind.trans (hcontinue outcome after)

theorem returns_pure (value : A) :
    Returns cfg (pure value) before fun found reached =>
      found = value ∧ reached = before :=
  returns_of_certain certain_run_pure

/-- The requests that every store answers. -/
def answered : Op → Bool
  | .uuidNewString => false
  | .randInt _ => false
  | .randToken => false
  | .usersQuery _ => false
  | .sessionsQuery _ _ => false
  | _ => true

theorem exists_steps {op : Op} (hop : answered op = true) :
    ∃ response after, steps cfg op before response after := by
  have hsome : (effect cfg op .ok before).isSome = true := by
    cases op with
    | otpPutItem | otpUpdateItem | transactWriteItems =>
        simp only [effect]
        split <;> rfl
    | uuidNewString | randInt | randToken | usersQuery | sessionsQuery =>
        cases hop
    | _ => rfl
  obtain ⟨⟨response, after⟩, heffect⟩ := Option.isSome_iff_exists.mp hsome
  exact ⟨response, after, .ok, trivial, heffect⟩

/-- A flow of such requests ends. -/
theorem exists_ends (honly : Only (fun op => answered op = true) flow) :
    ∃ outcome after, Ends (steps cfg) flow.run before outcome after := by
  suffices hprog : ∀ (program : Prog Op Op.Res (Except GoError A)) history
      before, Sat (fun _ op => answered op = true) (fun _ _ => True) program
        history →
      ∃ outcome after, Ends (steps cfg) program before outcome after from
    hprog flow.run [] before (honly [])
  intro program
  induction program with
  | pure outcome => exact fun _ before _ => ⟨outcome, before, certain_pure.ends⟩
  | call op next ih =>
      intro history before hsat
      obtain ⟨response, middle, hperforms⟩ := exists_steps hsat.1
      obtain ⟨outcome, after, trace, hruns⟩ :=
        ih response _ middle (hsat.2 response)
      exact ⟨outcome, after, _, response, middle, trace, hperforms, hruns, rfl⟩

end Combinators

section Redis

theorem certain_checkAndIncrement (key : RedisKey)
    (limit windowSeconds : ℕ) :
    Certain (steps cfg) (checkAndIncrement key limit windowSeconds).run before
      (.ok (decide ((before.incrementCounter key windowSeconds).1 ≤ limit)))
      (before.incrementCounter key windowSeconds).2 := by
  unfold checkAndIncrement
  exact (certain_request fun _ => rfl).run_bind_certain certain_run_pure

theorem certain_checkLockout (key : RedisKey) :
    Certain (steps cfg) (checkLockout key).run before
      (.ok (before.liveEntry key).isSome) before := by
  unfold checkLockout
  exact (certain_request fun _ => rfl).run_bind_certain certain_run_pure

theorem certain_revoke (jti : String) :
    Certain (steps cfg) (revoke jti).run before (.ok ())
      (before.setKey (.revokedJTI jti) revokedJTITTL) := by
  unfold revoke
  exact (certain_request fun _ => rfl).run_bind_certain certain_run_pure

end Redis

section OTPStore

theorem certain_createOTP {record : OTPRecord}
    (hreplaceable : otpReplaceable (format before.clock)
      (before.otpRequests.lookup record.phoneHash) = true) :
    Certain (steps cfg) (createOTP record).run before (.ok ())
      { before with otpRequests :=
          before.otpRequests.insert record.phoneHash (toOTPItem record) } := by
  unfold createOTP
  have hput : Certain (steps cfg) (request (.otpPutItem record.phoneHash
      (toOTPItem record) (format before.clock))).run before (.ok (.ok ()))
      { before with otpRequests :=
          before.otpRequests.insert record.phoneHash (toOTPItem record) } :=
    certain_request fun choice => by
      simp only [effect, hreplaceable, if_true]
  exact (certain_request fun _ => rfl).run_bind_certain
    (hput.run_bind_certain certain_run_pure)

theorem certain_getOTP {phoneHash : String} {item : OTPItem}
    (hitem : before.otpRequests.lookup phoneHash = some item) :
    Certain (steps cfg) (getOTP phoneHash).run before
      (.ok (fromOTPItem phoneHash item)) before := by
  unfold getOTP
  refine Certain.run_bind_certain (certain_request fun choice => rfl) ?_
  rw [hitem]
  exact certain_run_pure

theorem certain_incrementAttempts {phoneHash : String} {item : OTPItem}
    (hitem : before.otpRequests.lookup phoneHash = some item) :
    Certain (steps cfg) (incrementAttempts phoneHash).run before (.ok ())
      { before with
        otpRequests := before.otpRequests.insert phoneHash
          { item with attemptCount := item.attemptCount + 1 } } := by
  unfold incrementAttempts
  have hupdate : Certain (steps cfg) (request (.otpUpdateItem phoneHash)).run
      before (.ok (.ok ()))
      { before with
        otpRequests := before.otpRequests.insert phoneHash
          { item with attemptCount := item.attemptCount + 1 } } :=
    certain_request fun choice => by simp only [effect, hitem]
  exact hupdate.run_bind_certain certain_run_pure

end OTPStore

section Users

theorem certain_getUserByID {userID : String} {item : UserItem}
    (hitem : before.users.lookup userID = some item) :
    Certain (steps cfg) (getUserByID userID).run before
      (.ok (fromUserItem userID item)) before := by
  unfold getUserByID
  refine Certain.run_bind_certain (certain_request fun choice => rfl) ?_
  rw [hitem]
  exact certain_run_pure

theorem performs_usersQuery {phoneNumber : String}
    {response : Except DynamoError (List String)} :
    steps cfg (.usersQuery phoneNumber) before response after ↔
      after = before ∧ ∃ keys, keys.Perm (before.phoneKeys phoneNumber) ∧
        response = .ok keys := by
  constructor
  · rintro ⟨choice, hunfaulted, hperform⟩
    have heffect := effect_of_unfaulted hunfaulted hperform
    cases choice with
    | order keys =>
        simp only [effect] at heffect
        split at heffect
        · next hperm =>
            cases heffect
            exact ⟨rfl, keys, hperm, rfl⟩
        · cases heffect
    | _ => cases heffect
  · rintro ⟨rfl, keys, hperm, rfl⟩
    exact ⟨.order keys, trivial, by simp only [perform, effect, hperm, if_true]⟩

/-- The error of a lookup for which the index lists no key. -/
def unlistedPhoneError : GoError :=
  .errorf "user store: find by phone: %w" [] [.sentinel .errNotFound]

/-- A phone that the index does not list is not found. -/
theorem certain_findByPhone_of_unlisted {phoneNumber : String}
    (hunlisted : before.phoneKeys phoneNumber = []) :
    Certain (steps cfg) (findByPhone phoneNumber).run before
      (.error unlistedPhoneError) before := by
  unfold findByPhone
  have hquery : Certain (steps cfg) (request (.usersQuery phoneNumber)).run
      before (.ok (.ok [])) before := by
    intro outcome reached
    rw [ends_request]
    simp only [performs_usersQuery, hunlisted, List.perm_nil]
    constructor
    · rintro ⟨response, ⟨rfl, keys, rfl, rfl⟩, rfl⟩
      exact ⟨rfl, rfl⟩
    · rintro ⟨rfl, rfl⟩
      exact ⟨_, ⟨rfl, [], rfl, rfl⟩, rfl⟩
  exact hquery.run_bind_certain certain_run_throw

/-- A phone of which every listed key is in the table is found under one of
them. -/
theorem returns_findByPhone {phoneNumber : String}
    (hlisted : before.phoneKeys phoneNumber ≠ [])
    (hstored : ∀ key ∈ before.phoneKeys phoneNumber,
      before.users.lookup key ≠ none) :
    Returns cfg (findByPhone phoneNumber) before fun user after =>
      after = before ∧ ∃ key ∈ before.phoneKeys phoneNumber, ∃ item,
        before.users.lookup key = some item ∧
          user = fromUserItem key item := by
  have hctx : Certain (steps cfg) (request .ctxErr).run before
      (.ok (.ok ())) before := certain_request fun _ => rfl
  intro outcome after
  unfold findByPhone
  rw [ends_request_bind]
  constructor
  · rintro ⟨response, middle, hquery, hrest⟩
    obtain ⟨rfl, keys, hperm, rfl⟩ := performs_usersQuery.mp hquery
    cases keys with
    | nil => exact (hlisted hperm.symm.eq_nil).elim
    | cons key keys =>
        have hmem := hperm.mem_iff.mp List.mem_cons_self
        obtain ⟨item, hitem⟩ :=
          Option.ne_none_iff_exists'.mp (hstored key hmem)
        obtain ⟨rfl, rfl⟩ := (certain_getUserByID hitem outcome after).mp
          (hctx.run_bind.mp hrest)
        exact ⟨_, rfl, rfl, key, hmem, item, hitem, rfl⟩
  · rintro ⟨user, rfl, rfl, key, hmem, item, hitem, rfl⟩
    refine ⟨.ok (key :: (after.phoneKeys phoneNumber).erase key), after,
      performs_usersQuery.mpr
        ⟨rfl, _, (List.perm_cons_erase hmem).symm, rfl⟩, ?_⟩
    exact hctx.run_bind.mpr (certain_getUserByID hitem).ends

end Users

section Sessions

theorem certain_getSessionByID {sessionID : String} {item : SessionItem}
    (hitem : before.sessions.lookup sessionID = some item) :
    Certain (steps cfg) (getSessionByID sessionID).run before
      (.ok (fromSessionItem sessionID item)) before := by
  unfold getSessionByID
  refine Certain.run_bind_certain (certain_request fun choice => rfl) ?_
  rw [hitem]
  exact certain_run_pure

theorem performs_sessionsQuery {userID : String} {now : TimeText}
    {response : Except DynamoError (List (String × SessionItem))} :
    steps cfg (.sessionsQuery userID now) before response after ↔
      after = before ∧ ∃ keys, keys.Perm (before.activeKeys userID now) ∧
        response = .ok (before.indexedSessions keys) := by
  constructor
  · rintro ⟨choice, hunfaulted, hperform⟩
    have heffect := effect_of_unfaulted hunfaulted hperform
    cases choice with
    | order keys =>
        simp only [effect] at heffect
        split at heffect
        · next hperm =>
            cases heffect
            exact ⟨rfl, keys, hperm, rfl⟩
        · cases heffect
    | _ => cases heffect
  · rintro ⟨rfl, keys, hperm, rfl⟩
    exact ⟨.order keys, trivial, by simp only [perform, effect, hperm, if_true]⟩

/-- The records of a list of keys of the session index. -/
def indexedRecords (store : Store) (keys : List String) : List SessionRecord :=
  (store.indexedSessions keys).map fun row => fromSessionItem row.1 row.2

theorem returns_listByUser (userID : String) :
    Returns cfg (listByUser userID) before fun sessions after =>
      after = before ∧
        ∃ keys, keys.Perm (before.activeKeys userID (format before.clock)) ∧
          sessions = indexedRecords before keys := by
  have hclock : Certain (steps cfg) (request .clockNow).run before
      (.ok before.clock) before := certain_request fun _ => rfl
  intro outcome after
  unfold listByUser
  rw [hclock.run_bind, ends_request_bind]
  constructor
  · rintro ⟨response, middle, hquery, hrest⟩
    obtain ⟨rfl, keys, hperm, rfl⟩ := performs_sessionsQuery.mp hquery
    obtain ⟨rfl, rfl⟩ := (certain_run_pure outcome after).mp hrest
    exact ⟨_, rfl, rfl, keys, hperm, rfl⟩
  · rintro ⟨sessions, rfl, rfl, keys, hperm, rfl⟩
    exact ⟨_, after, performs_sessionsQuery.mpr ⟨rfl, keys, hperm, rfl⟩,
      certain_run_pure.ends⟩

theorem certain_updateSession (sessionID : String) (update : SessionUpdate) :
    Certain (steps cfg) (updateSession sessionID update).run before (.ok ())
      { before with
        sessions := before.sessions.insert sessionID
          (updatedSession update (before.sessions.lookup sessionID)) } := by
  unfold updateSession
  exact (certain_request fun _ => rfl).run_bind_certain certain_run_pure

theorem certain_deleteSession (sessionID : String) :
    Certain (steps cfg) (deleteSession sessionID).run before (.ok ())
      { before with sessions := before.sessions.erase sessionID } := by
  unfold deleteSession
  exact (certain_request fun _ => rfl).run_bind_certain certain_run_pure

end Sessions

section Transactions

variable {items : List TransactWriteItem}

theorem certain_transactWriteItems
    (hholds : ∀ item ∈ items, item.holds before = true) :
    Certain (steps cfg) (request (.transactWriteItems items)).run before
      (.ok (.ok ())) (items.foldl TransactWriteItem.write before) := by
  refine certain_request fun choice => ?_
  simp only [effect, List.all_eq_true.mpr hholds, if_true]

theorem certain_verifyOTPAndCreateUser {params : RegistrationParams}
    (hholds : ∀ item ∈ registrationItems params, item.holds before = true) :
    Certain (steps cfg) (verifyOTPAndCreateUser params).run before (.ok ())
      ((registrationItems params).foldl TransactWriteItem.write before) := by
  unfold verifyOTPAndCreateUser
  exact (certain_transactWriteItems hholds).run_bind_certain certain_run_pure

theorem certain_verifyOTPAndCreateSession {params : LoginParams}
    (hholds : ∀ item ∈ loginItems params, item.holds before = true) :
    Certain (steps cfg) (verifyOTPAndCreateSession params).run before (.ok ())
      ((loginItems params).foldl TransactWriteItem.write before) := by
  unfold verifyOTPAndCreateSession
  exact (certain_transactWriteItems hholds).run_bind_certain certain_run_pure

end Transactions

section Credentials

/-- The store after a random source has handed out a value. -/
def Store.issue (store : Store) (value : String) : Store :=
  { store with issued := value :: store.issued }

theorem performs_uuidNewString {value : String} :
    steps cfg .uuidNewString before value after ↔
      isUUIDText value = true ∧ value ∉ before.issued ∧
        after = Store.issue before value := by
  constructor
  · rintro ⟨choice, hunfaulted, hperform⟩
    cases effect_of_perform hperform with
    | unchanged hkeeps => cases hkeeps
    | uuid value hshape hfresh => exact ⟨hshape, hfresh, rfl⟩
  · rintro ⟨hshape, hfresh, rfl⟩
    refine ⟨.text value, trivial, ?_⟩
    simp only [perform, effect, hshape, hfresh, not_false_eq_true, and_self,
      if_true]
    rfl

theorem returns_uuidNewString :
    Returns cfg (request .uuidNewString) before fun value after =>
      isUUIDText value = true ∧ value ∉ before.issued ∧
        after = Store.issue before value := by
  intro outcome after
  rw [ends_request]
  constructor
  · rintro ⟨value, hdrawn, rfl⟩
    exact ⟨value, rfl, performs_uuidNewString.mp hdrawn⟩
  · rintro ⟨value, rfl, hdrawn⟩
    exact ⟨value, performs_uuidNewString.mpr hdrawn, rfl⟩

theorem returns_generateRefreshToken :
    Returns cfg generateRefreshToken before fun token after =>
      token ∉ before.issued ∧ after = Store.issue before token := by
  intro outcome after
  unfold generateRefreshToken
  rw [ends_request_bind]
  constructor
  · rintro ⟨response, middle, ⟨choice, hunfaulted, hperform⟩, hrest⟩
    have heffect := effect_of_unfaulted hunfaulted hperform
    cases choice with
    | text token =>
        simp only [effect] at heffect
        split at heffect
        · next hfresh =>
            cases heffect
            obtain ⟨rfl, rfl⟩ := (certain_run_pure outcome after).mp hrest
            exact ⟨token, rfl, hfresh, rfl⟩
        · cases heffect
    | _ => cases heffect
  · rintro ⟨token, rfl, hfresh, rfl⟩
    refine ⟨.ok token, Store.issue before token, ⟨.text token, trivial, ?_⟩,
      certain_run_pure.ends⟩
    simp only [perform, effect, hfresh, not_false_eq_true, if_true]
    rfl

/-- The claims of a token minted at `now` with some access TTL. -/
def accessClaimsFor (cfg : AuthServiceConfig) (accessTTL : Time)
    (userID sessionID jti : String) (now : Time) : Claims :=
  { accessClaims cfg userID sessionID jti now with
    expiresAt := some (unix (now + accessTTL)) }

/-- What a mint returns. -/
def mintedTokenFor (cfg : AuthServiceConfig) (accessTTL : Time)
    (userID sessionID jti : String) (now : Time) : MintResult where
  token := cfg.signedString cfg.signingKey cfg.signingKeyID
    (accessClaimsFor cfg accessTTL userID sessionID jti now)
  jti := jti
  expiresAt := now + accessTTL

def mintedToken (cfg : AuthServiceConfig) (userID sessionID jti : String)
    (now : Time) : MintResult :=
  mintedTokenFor cfg accessTokenLifetime userID sessionID jti now

theorem returns_mintAccessTokenFor (accessTTL : Time)
    (userID sessionID : String) :
    Returns cfg (mintAccessTokenFor cfg accessTTL userID sessionID) before
      fun minted after => ∃ jti, isUUIDText jti = true ∧
        jti ∉ before.issued ∧
        minted = mintedTokenFor cfg accessTTL userID sessionID jti
          before.clock ∧
        after = Store.issue before jti := by
  have hkey : Certain (steps cfg) (request .signingKey).run before
      (.ok (.ok (cfg.signingKey, cfg.signingKeyID))) before :=
    certain_request fun _ => rfl
  have hclock : Certain (steps cfg) (request .clockNow).run before
      (.ok before.clock) before := certain_request fun _ => rfl
  have hsigned : ∀ jti, Certain (steps cfg)
      (request (.signedString cfg.signingKey cfg.signingKeyID
        (accessClaimsFor cfg accessTTL userID sessionID jti
          before.clock))).run
      (Store.issue before jti)
      (.ok (.ok (cfg.signedString cfg.signingKey cfg.signingKeyID
        (accessClaimsFor cfg accessTTL userID sessionID jti before.clock))))
      (Store.issue before jti) := fun _ => certain_request fun _ => rfl
  refine Returns.of_certain hkey (Returns.of_certain hclock ?_)
  refine (returns_uuidNewString.bind (fun jti middle minted after =>
    minted = mintedTokenFor cfg accessTTL userID sessionID jti before.clock ∧
      after = middle) ?_).congr ?_
  · rintro jti middle ⟨-, -, rfl⟩
    exact Returns.of_certain (hsigned jti) (returns_pure _)
  · intro minted after
    constructor
    · rintro ⟨jti, middle, ⟨hshape, hfresh, rfl⟩, rfl, rfl⟩
      exact ⟨jti, hshape, hfresh, rfl, rfl⟩
    · rintro ⟨jti, hshape, hfresh, rfl, rfl⟩
      exact ⟨jti, _, ⟨hshape, hfresh, rfl⟩, rfl, rfl⟩

theorem returns_mintAccessToken (userID sessionID : String) :
    Returns cfg (mintAccessToken cfg userID sessionID) before
      fun minted after => ∃ jti, isUUIDText jti = true ∧
        jti ∉ before.issued ∧
        minted = mintedToken cfg userID sessionID jti before.clock ∧
        after = Store.issue before jti :=
  returns_mintAccessTokenFor accessTokenLifetime userID sessionID

end Credentials

end MessagingPlatform.StoreSteps
