import MessagingPlatform.System.Deployment
import MessagingPlatform.System.Registrations

/-!
# Looking a user up by phone

`FindByPhone` takes the first key that the phone-number index lists and reads
its item.  Users and reservations carry the same phone attribute, so the index
lists both; which comes first is up to the index.
-/

namespace MessagingPlatform.PhoneLookup

open Program
open Instants
open Errors
open Records
open Identifiers
open Primitives
open Tables
open Operations
open Stores
open Registrations
open Deployment

variable {cfg : AuthServiceConfig} {store : Store}
variable {registered : List RegistrationParams}
variable {phone : String} {keys : List String}

/-- The phone-number index has caught up with the users table. -/
def Indexed (store : Store) : Prop :=
  ∀ key, store.phoneNumberIndex.lookup key =
    (store.users.lookup key).map UserItem.phoneNumber

/-- The environment of a lookup: nothing fails, and a query lists `keys`. -/
def listing (keys : List String) : Op → Choice
  | .usersQuery _ => .order keys
  | _ => .ok

/-- What `FindByPhone` returns when the index lists `keys`. -/
def lookupOutcome (cfg : AuthServiceConfig) (store : Store) (phone : String)
    (keys : List String) : Option (Except GoError UserRecord) :=
  (findByPhone phone).run.evalOn
    (fun op state => perform cfg op (listing keys op) state) store

/-- The record of a registered user. -/
def registeredRecord (params : RegistrationParams) : UserRecord where
  userID := params.userID
  phoneNumber := params.phoneNumber
  displayName := ""
  createdAt := params.now
  updatedAt := params.now

/-- A lookup that finds the person: the user who registered the phone if there
is one, `ErrNotFound` otherwise, and never a reservation. -/
structure FindsPerson (registered : List RegistrationParams) (phone : String)
    (outcome : Option (Except GoError UserRecord)) : Prop where
  found : ∀ params ∈ registered, params.phoneNumber = phone →
    outcome = some (.ok (registeredRecord params))
  notFound : (∀ params ∈ registered, params.phoneNumber ≠ phone) →
    ∃ err, outcome = some (.error err) ∧ errorsIs .errNotFound err = true
  person : ∀ record, outcome = some (.ok record) →
    record.userID ≠ phoneSentinelKey phone

section Listing

/-- The index lists the users and the reservations of the phone. -/
theorem mem_keys_iff (hregistered : Registered registered store)
    (hindexed : Indexed store) (hkeys : keys.Perm (store.phoneKeys phone))
    (key : String) :
    key ∈ keys ↔ ∃ params ∈ registered, params.phoneNumber = phone ∧
      (key = params.userID ∨ key = phoneSentinelKey phone) := by
  rw [hkeys.mem_iff, mem_phoneKeys, hindexed, Option.map_eq_some_iff]
  constructor
  · rintro ⟨item, hitem, hphone⟩
    rcases (hregistered.lookup_iff key item).mp hitem with
      ⟨params, hparams, rfl, rfl⟩ | ⟨params, hparams, rfl, rfl⟩
    · exact ⟨params, hparams, hphone, Or.inl rfl⟩
    · exact ⟨params, hparams, hphone, Or.inr (congrArg _ hphone)⟩
  · rintro ⟨params, hparams, hphone, rfl | rfl⟩
    · refine ⟨userItem params, ?_, hphone⟩
      rw [hregistered.lookup_iff]
      exact Or.inl ⟨params, hparams, rfl, rfl⟩
    · refine ⟨sentinelItem params, ?_, hphone⟩
      rw [hregistered.lookup_iff]
      exact Or.inr ⟨params, hparams, congrArg _ hphone.symm, rfl⟩

theorem query_lists (hkeys : keys.Perm (store.phoneKeys phone)) :
    perform cfg (.usersQuery phone) (.order keys) store =
      some (.ok keys, store) := by
  simp only [perform, effect, if_pos hkeys]

theorem lookupOutcome_nil (hkeys : [].Perm (store.phoneKeys phone)) :
    lookupOutcome cfg store phone [] =
      some (.error (.errorf "user store: find by phone: %w" []
        [.sentinel .errNotFound])) := by
  change (perform cfg (.usersQuery phone) (.order []) store).bind _ = _
  rw [query_lists hkeys]
  rfl

theorem lookupOutcome_cons {key : String} {rest : List String}
    {item : UserItem} (hkeys : (key :: rest).Perm (store.phoneKeys phone))
    (hitem : store.users.lookup key = some item) :
    lookupOutcome cfg store phone (key :: rest) =
      some (.ok (fromUserItem key item)) := by
  have hcontext : perform cfg .ctxErr .ok store = some (.ok (), store) := rfl
  have hread : perform cfg (.usersGetItem key) .ok store =
      some (.ok (some item), store) := by
    simp only [perform, effect, hitem]
  change (perform cfg (.usersQuery phone) (.order (key :: rest)) store).bind
    _ = _
  rw [query_lists hkeys, Option.bind_some]
  change (perform cfg .ctxErr .ok store).bind _ = _
  rw [hcontext, Option.bind_some]
  change (perform cfg (.usersGetItem key) .ok store).bind _ = _
  rw [hread]
  rfl

end Listing

/-- `FindByPhone` finds the person if and only if the index does not list the
reservation of the phone first. -/
theorem findByPhone_findsPerson_iff (cfg : AuthServiceConfig)
    (registered : List RegistrationParams) (store : Store) (phone : String)
    (keys : List String) (hregistered : Registered registered store)
    (hindexed : Indexed store) (hkeys : keys.Perm (store.phoneKeys phone)) :
    FindsPerson registered phone (lookupOutcome cfg store phone keys) ↔
      keys.head? ≠ some (phoneSentinelKey phone) := by
  have hlisted := mem_keys_iff hregistered hindexed hkeys
  cases keys with
  | nil =>
      have hnone : ∀ params ∈ registered, params.phoneNumber ≠ phone := by
        intro params hparams hphone
        cases (hlisted params.userID).mpr
          ⟨params, hparams, hphone, Or.inl rfl⟩
      rw [lookupOutcome_nil hkeys]
      simp only [List.head?_nil, ne_eq, reduceCtorEq, not_false_eq_true,
        iff_true]
      exact
        { found := fun params hparams hphone =>
            absurd hphone (hnone params hparams)
          notFound := fun _ => ⟨_, rfl, rfl⟩
          person := fun record hrecord => by cases hrecord }
  | cons key rest =>
      obtain ⟨params, hparams, hphone, hkey⟩ :=
        (hlisted key).mp List.mem_cons_self
      rw [List.head?_cons, ne_eq, Option.some.injEq]
      by_cases hreserved : key = phoneSentinelKey phone
      · subst hreserved
        have hitem : store.users.lookup (phoneSentinelKey phone) =
            some (sentinelItem params) := by
          rw [hregistered.lookup_iff]
          exact Or.inr ⟨params, hparams, congrArg _ hphone.symm, rfl⟩
        rw [lookupOutcome_cons hkeys hitem]
        simp only [not_true_eq_false, iff_false]
        intro hfinds
        exact hfinds.person _ rfl rfl
      · have hkeyUser : key = params.userID := hkey.resolve_right hreserved
        have hitem : store.users.lookup key = some (userItem params) := by
          rw [hregistered.lookup_iff]
          exact Or.inl ⟨params, hparams, hkeyUser, rfl⟩
        have houtcome : lookupOutcome cfg store phone (key :: rest) =
            some (.ok (registeredRecord params)) := by
          rw [lookupOutcome_cons hkeys hitem, hkeyUser]
          rfl
        simp only [houtcome, hreserved, not_false_eq_true, iff_true]
        exact
          { found := fun other hother hsame => by
              rw [hregistered.eq_of_phoneNumber hother hparams
                (hsame.trans hphone.symm)]
            notFound := fun hnone => absurd hphone (hnone params hparams)
            person := fun record hrecord => by
              cases hrecord
              change params.userID ≠ phoneSentinelKey phone
              rw [← hkeyUser]
              exact hreserved }

section Registration

/-- The registration of a phone in the evening. -/
def firstRegistration : RegistrationParams where
  phoneHash := hashPhone (deployment []) Deployment.phone
  otpExpiresAt := format (evening + otpValidityDuration)
  otpMAC := "21b29b7b419b291c614aa7fadb3bcd1bcf964e0b95eaac3083c8bfb03b73f48b"
  userID := user
  phoneNumber := Deployment.phone
  now := format evening
  sessionID := session
  deviceID := "device-a"
  refreshTokenHash := hashRefreshToken (deployment []) refreshA
  sessionExpiresAt := format (evening + refreshTokenLifetime)
  sessionTTL := unix (evening + refreshTokenLifetime)

/-- Empty tables but for the code of the phone. -/
def pendingStore : Store :=
  { Store.empty evening with
    otpRequests := AList.singleton firstRegistration.phoneHash
      { otpMAC := firstRegistration.otpMAC
        otpCiphertext := ""
        createdAt := format evening
        expiresAt := firstRegistration.otpExpiresAt
        attemptCount := 0
        status := .pending
        ttl := unix (evening + otpValidityDuration) } }

/-- The tables after the registration, with the index caught up. -/
def registeredStore : Store :=
  { (registrationItems firstRegistration).foldl TransactWriteItem.write
      pendingStore with
    phoneNumberIndex :=
      (AList.insert user Deployment.phone ∅).insert
        (phoneSentinelKey Deployment.phone) Deployment.phone }

theorem registeredStore_registered :
    Registered [firstRegistration] registeredStore := by
  have hempty : Registered [] pendingStore := .none rfl
  have hregistered := hempty.register firstRegistration (by decide +kernel)
    (by decide +kernel)
  exact hregistered.other rfl

theorem registeredStore_indexed : Indexed registeredStore := by
  intro key
  have husers : registeredStore.users =
      (AList.insert user (userItem firstRegistration) ∅).insert
        (phoneSentinelKey Deployment.phone)
        (sentinelItem firstRegistration) := rfl
  have hindex : registeredStore.phoneNumberIndex =
      (AList.insert user Deployment.phone ∅).insert
        (phoneSentinelKey Deployment.phone) Deployment.phone := rfl
  rw [hindex, husers]
  by_cases hreserved : key = phoneSentinelKey Deployment.phone
  · subst hreserved
    rw [AList.lookup_insert, AList.lookup_insert]
    rfl
  · rw [AList.lookup_insert_ne hreserved, AList.lookup_insert_ne hreserved]
    by_cases huser : key = user
    · subst huser
      rw [AList.lookup_insert, AList.lookup_insert]
      rfl
    · rw [AList.lookup_insert_ne huser, AList.lookup_insert_ne huser]
      rfl

theorem user_listed_first_findsPerson :
    FindsPerson [firstRegistration] Deployment.phone
      (lookupOutcome (deployment []) registeredStore Deployment.phone
        [user, phoneSentinelKey Deployment.phone]) :=
  (findByPhone_findsPerson_iff (deployment []) [firstRegistration]
    registeredStore Deployment.phone
    [user, phoneSentinelKey Deployment.phone] registeredStore_registered
    registeredStore_indexed (by decide +kernel)).mpr (by decide)

/-- An index that lists the reservation first makes it the user. -/
theorem reservation_listed_first_returned :
    Registered [firstRegistration] registeredStore ∧
      Indexed registeredStore ∧
      [phoneSentinelKey Deployment.phone, user].Perm
        (registeredStore.phoneKeys Deployment.phone) ∧
      lookupOutcome (deployment []) registeredStore Deployment.phone
          [phoneSentinelKey Deployment.phone, user] =
        some (.ok
          { userID := "phone#+14155550100"
            phoneNumber := "+14155550100"
            displayName := ""
            createdAt := .empty
            updatedAt := .empty }) := by
  have hkeys : [phoneSentinelKey Deployment.phone, user].Perm
      (registeredStore.phoneKeys Deployment.phone) := by decide +kernel
  refine ⟨registeredStore_registered, registeredStore_indexed, hkeys, ?_⟩
  have hitem : registeredStore.users.lookup
      (phoneSentinelKey Deployment.phone) =
        some (sentinelItem firstRegistration) := by decide +kernel
  rw [lookupOutcome_cons hkeys hitem]
  rfl

end Registration

end MessagingPlatform.PhoneLookup
