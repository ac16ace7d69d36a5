import MessagingPlatform.System.Commits
import MessagingPlatform.System.Deployment

/-!
# The users table

The users table is written by registrations only.  `Registered` lists the
registrations behind a table; the table holds a user and a reservation of the
phone for each of them, and nothing else.  The table of the running service is
always of that form.
-/

namespace MessagingPlatform.Registrations

open Interleaving
open Instants
open Records
open Identifiers
open Primitives
open Tables
open Operations
open Effects
open Stores
open Transactions
open VerifyRules
open Service
open MessagingPlatform.Runs
open Commits
open Deployment

variable {cfg : AuthServiceConfig} {admissible : Pool → Label → Prop}
variable {clock : Time} {pool : Pool}

/-- The stores that `VerifyOTPAndCreateUser` transactions lead to, with the
registrations they made, newest first.  Between two transactions anything may
happen that leaves the users table alone; user identifiers are UUIDs. -/
inductive Registered : List RegistrationParams → Store → Prop
  | none {store : Store} (husers : store.users = ∅) : Registered [] store
  | register {registered : List RegistrationParams} {store : Store}
      (hbefore : Registered registered store) (params : RegistrationParams)
      (huserID : isUUIDText params.userID = true)
      (hholds : ∀ item ∈ registrationItems params, item.holds store = true) :
      Registered (params :: registered)
        ((registrationItems params).foldl TransactWriteItem.write store)
  | other {registered : List RegistrationParams} {store later : Store}
      (hbefore : Registered registered store)
      (husers : later.users = store.users) : Registered registered later

/-- The user of a registration. -/
def userItem (params : RegistrationParams) : UserItem :=
  userAttributes params.phoneNumber params.now

/-- The phone reservation of a registration. -/
def sentinelItem (params : RegistrationParams) : UserItem :=
  sentinelAttributes params.phoneNumber params.userID

/-- The items that some registrations put into the users table. -/
def Entered (registered : List RegistrationParams) (key : String)
    (item : UserItem) : Prop :=
  (∃ params ∈ registered, key = params.userID ∧ item = userItem params) ∨
    ∃ params ∈ registered, key = phoneSentinelKey params.phoneNumber ∧
      item = sentinelItem params

theorem entered_cons {latest : RegistrationParams}
    {registered : List RegistrationParams} {key : String} {item : UserItem} :
    Entered (latest :: registered) key item ↔
      (key = latest.userID ∧ item = userItem latest) ∨
      (key = phoneSentinelKey latest.phoneNumber ∧
        item = sentinelItem latest) ∨
      Entered registered key item := by
  simp only [Entered, List.exists_mem_cons_iff]
  rw [or_or_or_comm, or_assoc]

namespace Registered

variable {registered : List RegistrationParams} {store : Store}

theorem isUUIDText_of_mem (hregistered : Registered registered store)
    {params : RegistrationParams} (hparams : params ∈ registered) :
    isUUIDText params.userID = true := by
  induction hregistered with
  | none husers => cases hparams
  | register hbefore latest huserID hholds ih =>
      rcases List.mem_cons.mp hparams with rfl | hearlier
      · exact huserID
      · exact ih hearlier
  | other hbefore husers ih => exact ih hparams

/-- A user is not stored under the key of a reservation. -/
theorem userID_ne_sentinelKey {userID : String}
    (huserID : isUUIDText userID = true) (phoneNumber : String) :
    userID ≠ phoneSentinelKey phoneNumber := by
  intro heq
  have hnot := not_isPhoneSentinelKey_of_isUUIDText huserID
  rw [heq, isPhoneSentinelKey_phoneSentinelKey] at hnot
  cases hnot

/-- The table holds the users and the reservations of the registrations. -/
theorem lookup_iff (hregistered : Registered registered store)
    (key : String) (item : UserItem) :
    store.users.lookup key = some item ↔ Entered registered key item := by
  induction hregistered generalizing key item with
  | none husers => simp [husers, Entered]
  | other hbefore husers ih =>
      rw [husers]
      exact ih key item
  | @register registered store hbefore latest huserID hholds ih =>
      obtain ⟨⟨consumedItem, -, hafter⟩, huser, hsentinel, -⟩ :=
        registration_committed hholds
      have hapart := userID_ne_sentinelKey huserID latest.phoneNumber
      rw [hafter, entered_cons, ← ih]
      by_cases hreserved : key = phoneSentinelKey latest.phoneNumber
      · subst hreserved
        rw [AList.lookup_insert, hsentinel]
        simp [hapart.symm, sentinelItem, eq_comm]
      · rw [AList.lookup_insert_ne hreserved]
        by_cases hnew : key = latest.userID
        · subst hnew
          rw [AList.lookup_insert, huser]
          simp [hapart, userItem, eq_comm]
        · rw [AList.lookup_insert_ne hnew]
          simp [hreserved, hnew]

/-- No identifier and no phone is registered twice. -/
theorem nodup (hregistered : Registered registered store) :
    (registered.map (·.userID)).Nodup ∧
      (registered.map (·.phoneNumber)).Nodup := by
  induction hregistered with
  | none husers => simp
  | other hbefore husers ih => exact ih
  | @register registered store hbefore latest huserID hholds ih =>
      obtain ⟨-, huser, hsentinel, -⟩ := registration_committed hholds
      refine ⟨List.nodup_cons.mpr ⟨?_, ih.1⟩, List.nodup_cons.mpr ⟨?_, ih.2⟩⟩
      · intro hmem
        obtain ⟨earlier, hearlier, heq⟩ := List.mem_map.mp hmem
        have hstored := (hbefore.lookup_iff latest.userID _).mpr
          (Or.inl ⟨earlier, hearlier, heq.symm, rfl⟩)
        rw [huser] at hstored
        cases hstored
      · intro hmem
        obtain ⟨earlier, hearlier, heq⟩ := List.mem_map.mp hmem
        have hstored := (hbefore.lookup_iff
            (phoneSentinelKey latest.phoneNumber) _).mpr
          (Or.inr ⟨earlier, hearlier, congrArg phoneSentinelKey heq.symm, rfl⟩)
        rw [hsentinel] at hstored
        cases hstored

theorem eq_of_phoneNumber (hregistered : Registered registered store)
    {params other : RegistrationParams} (hparams : params ∈ registered)
    (hother : other ∈ registered)
    (hphone : params.phoneNumber = other.phoneNumber) : params = other :=
  List.inj_on_of_nodup_map hregistered.nodup.2 hparams hother hphone

end Registered

theorem mem_phoneKeys {store : Store} {key phoneNumber : String} :
    key ∈ store.phoneKeys phoneNumber ↔
      store.phoneNumberIndex.lookup key = some phoneNumber := by
  rw [← Option.mem_def, AList.mem_lookup_iff]
  simp [Store.phoneKeys]

section Service

/-- Identifiers in histories are UUIDs. -/
theorem isUUIDText_of_drawn {id : ℕ} {call : Call} {value : String}
    (hreach : (machine cfg).Reach admissible (start clock) pool)
    (hcall : pool.calls.lookup id = some call)
    (hdrawn : (⟨.uuidNewString, value⟩ : Entry) ∈ call.history) :
    isUUIDText value = true := by
  refine forall_entries (F := fun _ entry => ∀ value,
    entry = ⟨.uuidNewString, value⟩ → isUUIDText value = true) ?_ ?_ hreach
    hcall _ hdrawn value rfl
  · intro pool later entry hentry _
    exact hentry
  · intro pool id choice call op next response after _ hexec _ _ value heq
    cases heq
    cases hexec.effect with
    | unchanged hkeeps => cases hkeeps
    | uuid value hshape hfresh => exact hshape

/-- Only registrations write the users table. -/
theorem users_of_effect {before after : Store} {entry : Entry}
    (heffect : Effect before entry after)
    (hentry : commits entry = false) : after.users = before.users := by
  cases heffect with
  | committed items hholds => cases hentry
  | _ => rfl

/-- A committed transaction is a registration or leaves the users table
alone. -/
theorem registered_of_commit {id : ℕ} {call : Call}
    {items : List TransactWriteItem} {after : Store}
    {registered : List RegistrationParams}
    (hreach : (machine cfg).Reach admissible (start clock) pool)
    (hregistered : Registered registered pool.store)
    (hexec : Exec cfg pool id call (.transactWriteItems items) (.ok ())
      after) : ∃ later, Registered later after := by
  obtain ⟨phone, otpCandidate, deviceID, -, hguard⟩ :=
    verifyOTP_of_guard hexec.guarded
  cases hexec.effect with
  | unchanged hkeeps => cases hkeeps
  | committed items hholds =>
      rcases hguard with ⟨registration, -, rfl, holder⟩ |
        ⟨login, created, -, rfl, -⟩
      · have hdrawn : (⟨.uuidNewString, registration.userID⟩ : Entry) ∈
            call.history := by
          simp [holder, Registration.entries]
        exact ⟨_, hregistered.register _
          (isUUIDText_of_drawn hreach hexec.lookup hdrawn) hholds⟩
      · obtain ⟨⟨item, -, hafter⟩, -⟩ := login_committed hholds
        exact ⟨registered, hregistered.other (by rw [hafter])⟩

/-- The users table of the running service is one that registrations lead
to. -/
theorem exists_registered
    (hreach : (machine cfg).Reach admissible (start clock) pool) :
    ∃ registered, Registered registered pool.store := by
  refine invariant (I := fun pool => ∃ registered,
    Registered registered pool.store) ?_ ?_ ?_ ?_ hreach
  · exact ⟨[], .none rfl⟩
  · intro pool id req _ ih _ _ _
    exact ih
  · intro pool id choice call op next response after hpool ih hexec _ _
    obtain ⟨registered, hregistered⟩ := ih
    cases hcommits : commits ⟨op, response⟩ with
    | false =>
        exact ⟨registered,
          hregistered.other (users_of_effect hexec.effect hcommits)⟩
    | true =>
        obtain ⟨items, heq⟩ := eq_of_commits hcommits
        cases heq
        exact registered_of_commit hpool hregistered hexec
  · intro pool change after _ ih hadvance _ _
    obtain ⟨registered, hregistered⟩ := ih
    exact ⟨registered,
      hregistered.other (framed_of_advance hadvance).users⟩

/-- Users stay as they are registered. -/
theorem users_persist {first : Pool} {key : String} {item : UserItem}
    (hreach : (machine cfg).Reach admissible first pool)
    (hitem : first.store.users.lookup key = some item) :
    pool.store.users.lookup key = some item := by
  refine Machine.Reach.invariant (I := fun pool =>
    pool.store.users.lookup key = some item) hitem ?_ ?_ ?_ hreach
  · intro pool id req _ ih _ _
    exact ih
  · intro pool id choice call op next response after _ ih _ _ hperform _
    exact (effect_of_perform hperform).users_kept ih
  · intro pool change after _ ih hadvance _
    change after.users.lookup key = some item
    rw [(framed_of_advance hadvance).users]
    exact ih

/-- A key of the users table with its phone. -/
def HasPhone (store : Store) (key phoneNumber : String) : Prop :=
  ∃ item, store.users.lookup key = some item ∧ item.phoneNumber = phoneNumber

theorem hasPhone_unique {store : Store} {key phoneNumber other : String}
    (hphone : HasPhone store key phoneNumber)
    (hother : HasPhone store key other) : phoneNumber = other := by
  obtain ⟨item, hitem, rfl⟩ := hphone
  obtain ⟨item', hitem', rfl⟩ := hother
  rw [hitem, Option.some.injEq] at hitem'
  rw [hitem']

/-- However stale the phone-number index, what it holds is true. -/
theorem hasPhone_of_indexed {key phoneNumber : String}
    (hreach : (machine cfg).Reach admissible (start clock) pool)
    (hindexed : pool.store.phoneNumberIndex.lookup key = some phoneNumber) :
    HasPhone pool.store key phoneNumber := by
  refine invariant (I := fun pool => ∀ key phoneNumber,
    pool.store.phoneNumberIndex.lookup key = some phoneNumber →
      HasPhone pool.store key phoneNumber) ?_ ?_ ?_ ?_ hreach key phoneNumber
    hindexed
  · intro key phoneNumber hindexed
    simp [start, Pool.initial, Store.empty] at hindexed
  · intro pool id req _ ih _ _ _
    exact ih
  · intro pool id choice call op next response after _ ih hexec _ _ key
      phoneNumber hindexed
    change after.phoneNumberIndex.lookup key = some phoneNumber at hindexed
    rw [hexec.effect.phoneNumberIndex] at hindexed
    obtain ⟨item, hitem, hphone⟩ := ih key phoneNumber hindexed
    exact ⟨item, hexec.effect.users_kept hitem, hphone⟩
  · intro pool change after _ ih hadvance _ _ key phoneNumber hindexed
    cases change with
    | replicateUser userID =>
        cases hadvance
        by_cases hkey : key = userID
        · subst hkey
          cases hitem : pool.store.users.lookup key with
          | none =>
              simp only [hitem, AList.lookup_erase, reduceCtorEq] at hindexed
          | some item =>
              simp only [hitem, AList.lookup_insert,
                Option.some.injEq] at hindexed
              exact ⟨item, hitem, hindexed⟩
        · apply ih key phoneNumber
          cases hitem : pool.store.users.lookup userID with
          | none =>
              simp only [hitem, AList.lookup_erase_ne hkey] at hindexed
              exact hindexed
          | some item =>
              simp only [hitem, AList.lookup_insert_ne hkey] at hindexed
              exact hindexed
    | tick now =>
        simp only [advance] at hadvance
        split at hadvance
        · cases hadvance
          exact ih key phoneNumber hindexed
        · cases hadvance
    | replicateSession sessionID =>
        cases hadvance
        exact ih key phoneNumber hindexed

/-- A key that a lookup has listed for a phone has that phone. -/
theorem hasPhone_of_listed {id : ℕ} {call : Call} {key phoneNumber : String}
    {keys : List String}
    (hreach : (machine cfg).Reach admissible (start clock) pool)
    (hcall : pool.calls.lookup id = some call)
    (hlisted : (⟨.usersQuery phoneNumber, .ok keys⟩ : Entry) ∈ call.history)
    (hkey : key ∈ keys) : HasPhone pool.store key phoneNumber := by
  refine forall_entries (F := fun pool entry => ∀ phoneNumber keys key,
    entry = ⟨.usersQuery phoneNumber, .ok keys⟩ → key ∈ keys →
      HasPhone pool.store key phoneNumber) ?_ ?_ hreach hcall _ hlisted _ _ _
    rfl hkey
  · intro pool later entry hentry hlater phoneNumber keys key heq hkey
    obtain ⟨item, hitem, hphone⟩ := hentry phoneNumber keys key heq hkey
    exact ⟨item, users_persist hlater hitem, hphone⟩
  · intro pool id choice call op next response after hpool hexec _ _
      phoneNumber keys key heq hkey
    cases heq
    have hperm : keys.Perm (pool.store.phoneKeys phoneNumber) := hexec.answers
    obtain ⟨item, hitem, hphone⟩ := hasPhone_of_indexed hpool
      (mem_phoneKeys.mp (hperm.mem_iff.mp hkey))
    exact ⟨item, hexec.effect.users_kept hitem, hphone⟩

end Service

section Uniqueness

/-- A user with the phone: an item that carries it under a key that is no
reservation. -/
def IsUserOf (store : Store) (phoneNumber key : String) : Prop :=
  isPhoneSentinelKey key = false ∧
    ∃ item, store.users.lookup key = some item ∧
      item.phoneNumber = phoneNumber

theorem isUserOf_iff {registered : List RegistrationParams} {store : Store}
    (hregistered : Registered registered store) {phoneNumber key : String} :
    IsUserOf store phoneNumber key ↔
      ∃ params ∈ registered, params.phoneNumber = phoneNumber ∧
        key = params.userID := by
  constructor
  · rintro ⟨hkey, item, hitem, hphone⟩
    rcases (hregistered.lookup_iff key item).mp hitem with
      ⟨params, hparams, huserID, rfl⟩ | ⟨params, hparams, rfl, rfl⟩
    · exact ⟨params, hparams, hphone, huserID⟩
    · rw [isPhoneSentinelKey_phoneSentinelKey] at hkey
      cases hkey
  · rintro ⟨params, hparams, hphone, rfl⟩
    have huuid := hregistered.isUUIDText_of_mem hparams
    refine ⟨not_isPhoneSentinelKey_of_isUUIDText huuid, userItem params, ?_,
      hphone⟩
    rw [hregistered.lookup_iff]
    exact Or.inl ⟨params, hparams, rfl, rfl⟩

theorem lookup_sentinelKey_iff {registered : List RegistrationParams}
    {store : Store} (hregistered : Registered registered store)
    {phoneNumber : String} {item : UserItem} :
    store.users.lookup (phoneSentinelKey phoneNumber) = some item ↔
      ∃ params ∈ registered, params.phoneNumber = phoneNumber ∧
        item = sentinelItem params := by
  rw [hregistered.lookup_iff]
  constructor
  · rintro (⟨params, hparams, hkey, -⟩ | ⟨params, hparams, hkey, hitem⟩)
    · have huuid := hregistered.isUUIDText_of_mem hparams
      exact absurd hkey.symm
        (Registered.userID_ne_sentinelKey huuid phoneNumber)
    · exact ⟨params, hparams, (phoneSentinelKey_injective hkey).symm, hitem⟩
  · rintro ⟨params, hparams, hphone, hitem⟩
    exact Or.inr ⟨params, hparams, congrArg _ hphone.symm, hitem⟩

/-- A user who is registered with the phone, and for whom it is reserved. -/
def Registers (store : Store) (phoneNumber userID : String) : Prop :=
  IsUserOf store phoneNumber userID ∧
    ∃ reservation, store.users.lookup (phoneSentinelKey phoneNumber) =
      some reservation ∧ reservation.ownerID = some userID

/-- Two keys of the users table carry a phone: that of the user who is
registered with it, and that of the reservation. -/
theorem registers_of_hasPhone {registered : List RegistrationParams}
    {store : Store} (hregistered : Registered registered store)
    {phoneNumber key : String} (hphone : HasPhone store key phoneNumber) :
    ∃ userID, Registers store phoneNumber userID ∧
      (key = userID ∨ key = phoneSentinelKey phoneNumber) := by
  have hregisters : ∀ params ∈ registered,
      Registers store params.phoneNumber params.userID := by
    intro params hparams
    refine ⟨(isUserOf_iff hregistered).mpr ⟨params, hparams, rfl, rfl⟩,
      sentinelItem params, ?_, rfl⟩
    exact (lookup_sentinelKey_iff hregistered).mpr
      ⟨params, hparams, rfl, rfl⟩
  obtain ⟨item, hitem, rfl⟩ := hphone
  rcases (hregistered.lookup_iff key item).mp hitem with
    ⟨params, hparams, rfl, rfl⟩ | ⟨params, hparams, rfl, rfl⟩
  · exact ⟨params.userID, hregisters params hparams, Or.inl rfl⟩
  · exact ⟨params.userID, hregisters params hparams, Or.inr rfl⟩

theorem Registers.later {first : Pool} {phoneNumber userID : String}
    (hregisters : Registers first.store phoneNumber userID)
    (hreach : (machine cfg).Reach admissible first pool) :
    Registers pool.store phoneNumber userID := by
  obtain ⟨⟨hkey, item, hitem, hphone⟩, reservation, hreservation, howner⟩ :=
    hregisters
  exact ⟨⟨hkey, item, users_persist hreach hitem, hphone⟩, reservation,
    users_persist hreach hreservation, howner⟩

/-- In every state of the service a phone has at most one user, and it is
reserved exactly when it has one, for that user. -/
theorem phone_has_one_user (cfg : AuthServiceConfig) (clock : Time)
    (pool : Pool) (hreach : (machine cfg).Reach anyStep (start clock) pool)
    (phoneNumber : String) :
    (∀ key other, IsUserOf pool.store phoneNumber key →
      IsUserOf pool.store phoneNumber other → key = other) ∧
    ((∃ item, pool.store.users.lookup (phoneSentinelKey phoneNumber) =
        some item) ↔
      ∃ key, IsUserOf pool.store phoneNumber key) ∧
    ∀ item key,
      pool.store.users.lookup (phoneSentinelKey phoneNumber) = some item →
      IsUserOf pool.store phoneNumber key → item.ownerID = some key := by
  obtain ⟨registered, hregistered⟩ := exists_registered hreach
  refine ⟨?_, ?_, ?_⟩
  · intro key other hkey hother
    obtain ⟨params, hparams, hphone, rfl⟩ := (isUserOf_iff hregistered).mp hkey
    obtain ⟨params', hparams', hphone', rfl⟩ :=
      (isUserOf_iff hregistered).mp hother
    rw [hregistered.eq_of_phoneNumber hparams hparams'
      (hphone.trans hphone'.symm)]
  · constructor
    · rintro ⟨item, hitem⟩
      obtain ⟨params, hparams, hphone, -⟩ :=
        (lookup_sentinelKey_iff hregistered).mp hitem
      exact ⟨params.userID,
        (isUserOf_iff hregistered).mpr ⟨params, hparams, hphone, rfl⟩⟩
    · rintro ⟨key, hkey⟩
      obtain ⟨params, hparams, hphone, -⟩ := (isUserOf_iff hregistered).mp hkey
      exact ⟨sentinelItem params,
        (lookup_sentinelKey_iff hregistered).mpr
          ⟨params, hparams, hphone, rfl⟩⟩
  · intro item key hitem hkey
    obtain ⟨params, hparams, hphone, rfl⟩ :=
      (lookup_sentinelKey_iff hregistered).mp hitem
    obtain ⟨params', hparams', hphone', rfl⟩ :=
      (isUserOf_iff hregistered).mp hkey
    rw [hregistered.eq_of_phoneNumber hparams hparams'
      (hphone.trans hphone'.symm)]
    rfl

/-- A service in which one phone has registered. -/
def registeredOnce : Pool :=
  (machine (deployment [])).runTo anyStep (start evening) registration

theorem registeredOnce_has_one_user :
    IsUserOf registeredOnce.store phone user ∧
      (∀ other, IsUserOf registeredOnce.store phone other → user = other) ∧
      ∃ item, registeredOnce.store.users.lookup (phoneSentinelKey phone) =
        some item ∧ item.ownerID = some user := by
  have hfacts : isPhoneSentinelKey user = false ∧
      ∃ item ∈ registeredOnce.store.users.lookup user,
        item.phoneNumber = phone := by
    decide +kernel
  have huser : IsUserOf registeredOnce.store phone user :=
    ⟨hfacts.1, hfacts.2⟩
  obtain ⟨hunique, hreserved, howner⟩ := phone_has_one_user (deployment [])
    evening registeredOnce (Machine.reach_runTo _) phone
  obtain ⟨item, hitem⟩ := hreserved.mpr ⟨user, huser⟩
  exact ⟨huser, fun other hother => hunique user other huser hother, item,
    hitem, howner item user hitem huser⟩

end Uniqueness

end MessagingPlatform.Registrations
