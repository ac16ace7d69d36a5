import MessagingPlatform.System.Accounts
import MessagingPlatform.System.ActiveCode
import MessagingPlatform.System.Registrations

/-!
# The tables as a ledger

However the calls of the service are interleaved and wherever they are cut
short, the writes that were performed are, in their order, actions on the
ledger that the tables spell out.  Random values, counters, attempts and the
indexes are not part of it, and neither are requests that failed or items that
DynamoDB removes by their `ttl`.  A login names a key that holds the phone, be
it that of the user or that of the reservation.
-/

namespace MessagingPlatform.Refinement

open Program
open Interleaving
open Instants
open Records
open Identifiers
open Primitives
open Tables
open Operations
open Effects
open Stores
open StoreRules
open Transactions
open VerifyRules
open Service
open ServiceRules
open MessagingPlatform.Runs
open Commits
open ActiveCode
open StoredCodes
open Registrations
open Accounts
open Deployment

variable {cfg : AuthServiceConfig} {admissible : Pool → Label → Prop}
variable {clock : Time} {pool : Pool}

section Reading

/-- A code as the transactions name it: by its expiry and its MAC. -/
abbrev CodeVersion : Type := TimeText × String

abbrev TableLedger : Type :=
  Ledger String String String String CodeVersion Time

abbrev TableAction : Type := Action String String String String CodeVersion

/-- A column of a table. -/
def column {Row Column : Type} (field : Row → Column)
    (table : AList fun _ : String => Row) (key : String) : Option Column :=
  (table.lookup key).map field

def codeEntry (item : OTPItem) : CodeVersion × Bool :=
  ((item.expiresAt, item.otpMAC), item.status == .verified)

/-- The ledger that the tables spell out. -/
def ledger (store : Store) : TableLedger where
  now := store.clock
  phone := column UserItem.phoneNumber store.users
  code := column codeEntry store.otpRequests
  owner := column SessionItem.userID store.sessions

def tableRules (cfg : AuthServiceConfig) :
    Rules String String String CodeVersion Time where
  digest := hashPhone cfg
  reserve := phoneSentinelKey
  expires code := parse code.1

/-- The action that a committed transaction is. -/
def signIn : List TransactWriteItem → Option TableAction
  | [.otpVerifyUpdate _ expiresAt otpMAC, .userPut userID user, .userPut _ _,
      .sessionPut sessionID _] =>
      some (.register user.phoneNumber (expiresAt, otpMAC) userID sessionID)
  | [.otpVerifyUpdate phoneHash expiresAt otpMAC,
      .sessionPut sessionID session] =>
      session.userID.map fun userID =>
        .login phoneHash (expiresAt, otpMAC) userID sessionID
  | _ => none

/-- The action that a performed request is, if it is one. -/
def actionOf : Entry → Option TableAction
  | ⟨.otpPutItem phoneHash item _, .ok ()⟩ =>
      some (.issue phoneHash (item.expiresAt, item.otpMAC))
  | ⟨.sessionsUpdateItem sessionID _, .ok ()⟩ => some (.rotate sessionID)
  | ⟨.sessionsDeleteItem sessionID, .ok ()⟩ => some (.close sessionID)
  | ⟨.transactWriteItems items, .ok ()⟩ => signIn items
  | _ => none

/-- The actions of a run, newest first. -/
def actions (pool : Pool) : List TableAction :=
  pool.log.filterMap fun event => actionOf event.entry

end Reading

section Columns

variable {Row Column : Type} {field : Row → Column}
variable {table : AList fun _ : String => Row} {key : String} {row : Row}

theorem column_eq (hrow : table.lookup key = some row) :
    column field table key = some (field row) := by
  rw [column, hrow, Option.map_some]

theorem column_absent (habsent : table.lookup key = none) :
    column field table key = none := by
  rw [column, habsent, Option.map_none]

theorem column_insert : column field (table.insert key row) =
    Function.update (column field table) key (some (field row)) := by
  funext other
  by_cases hkey : other = key
  · subst hkey
    rw [Function.update_self, column_eq (AList.lookup_insert table)]
  · rw [Function.update_of_ne hkey, column, AList.lookup_insert_ne hkey,
      column]

theorem column_erase : column field (table.erase key) =
    Function.update (column field table) key none := by
  funext other
  by_cases hkey : other = key
  · subst hkey
    rw [Function.update_self, column_absent (AList.lookup_erase _ table)]
  · rw [Function.update_of_ne hkey, column, AList.lookup_erase_ne hkey,
      column]

/-- A row that is written again with the same attribute. -/
theorem column_rewritten {old : Row} (hold : table.lookup key = some old)
    (hsame : field row = field old) :
    column field (table.insert key row) = column field table := by
  rw [column_insert, hsame, ← column_eq hold, Function.update_eq_self]

end Columns

section Matching

/-- A request is one action on the ledger, or none at all. -/
def Matched (cfg : AuthServiceConfig) (before : Store) (entry : Entry)
    (after : Store) : Prop :=
  (actionOf entry = none ∧ ledger after = ledger before) ∨
    ∃ action, actionOf entry = some action ∧
      Step (tableRules cfg) (ledger before) action (ledger after)

theorem actionOf_of_keepsStore {entry : Entry}
    (hkeeps : keepsStore entry = true) : actionOf entry = none := by
  unfold actionOf
  split
  · cases hkeeps
  · cases hkeeps
  · cases hkeeps
  · cases hkeeps
  · rfl

section Steps

variable {before after : Store} {target : TableLedger}

theorem ledger_of_columns (hnow : after.clock = target.now)
    (hphone : column UserItem.phoneNumber after.users = target.phone)
    (hcode : column codeEntry after.otpRequests = target.code)
    (howner : column SessionItem.userID after.sessions = target.owner) :
    ledger after = target := by
  rw [ledger, hnow, hphone, hcode, howner]

/-- The tables of a store hold what an action leaves in the ledger. -/
theorem step_of_columns {action : TableAction}
    (hstep : Step (tableRules cfg) (ledger before) action target)
    (hnow : after.clock = target.now)
    (hphone : column UserItem.phoneNumber after.users = target.phone)
    (hcode : column codeEntry after.otpRequests = target.code)
    (howner : column SessionItem.userID after.sessions = target.owner) :
    Step (tableRules cfg) (ledger before) action (ledger after) := by
  rw [ledger_of_columns hnow hphone hcode howner]
  exact hstep

end Steps

/-- The code that a transaction consumes is pending. -/
theorem code_of_consumable {before : Store} {phoneHash otpMAC : String}
    {expiresAt : TimeText} {item : OTPItem}
    (hitem : Consumable before phoneHash expiresAt otpMAC item) :
    (ledger before).code phoneHash = some ((expiresAt, otpMAC), false) := by
  rw [← hitem.expiry, ← hitem.mac]
  refine (column_eq hitem.stored).trans ?_
  rw [codeEntry, hitem.pending]
  rfl

/-- What is left of it is used up. -/
theorem codeEntry_consumed {before : Store} {phoneHash otpMAC : String}
    {expiresAt : TimeText} {item : OTPItem}
    (hitem : Consumable before phoneHash expiresAt otpMAC item) :
    codeEntry (consumed item) = ((expiresAt, otpMAC), true) := by
  rw [← hitem.expiry, ← hitem.mac]
  rfl

/-- A pending code that may be replaced has expired. -/
theorem expired_of_replaceable {before : Store} {phoneHash : String}
    {putAt instant : Time} {old : CodeVersion} (hpast : putAt ≤ before.clock)
    (hreplaceable : otpReplaceable (format putAt)
      (before.otpRequests.lookup phoneHash) = true)
    (hpending : (ledger before).code phoneHash = some (old, false))
    (hexpires : parse old.1 = some instant) : instant < before.clock := by
  obtain ⟨item, hitem, heq⟩ := Option.map_eq_some_iff.mp hpending
  rw [codeEntry, Prod.mk.injEq] at heq
  obtain ⟨rfl, hstatus⟩ := heq
  rw [hitem, otpReplaceable, hstatus, Bool.false_or] at hreplaceable
  by_contra hahead
  rw [not_before_of_le hexpires (hpast.trans (not_lt.mp hahead))]
    at hreplaceable
  cases hreplaceable

variable {id : ℕ} {call : Call} {after : Store}

/-- A code that is stored replaces none that is still good. -/
theorem issue_step {phoneHash : String} {item : OTPItem} {now : TimeText}
    (hreach : (machine cfg).Reach admissible (start clock) pool)
    (hcall : pool.calls.lookup id = some call)
    (hguard : guard cfg call.req call.history
      (.otpPutItem phoneHash item now))
    (hreplaceable : otpReplaceable now
      (pool.store.otpRequests.lookup phoneHash) = true) :
    Step (tableRules cfg) (ledger pool.store)
      (.issue phoneHash (item.expiresAt, item.otpMAC))
      { ledger pool.store with
        code := Function.update (ledger pool.store).code phoneHash
          (some (codeEntry item)) } := by
  obtain ⟨putAt, rfl, hpast⟩ := putAt_le_clock hreach hcall hguard
  obtain ⟨phone, clientIP, issue, counted, -, -, rfl, -, -⟩ :=
    issue_of_put hguard
  exact Step.issue phoneHash _ fun old hold instant hexpires =>
    expired_of_replaceable hpast hreplaceable hold hexpires

theorem register_step {params : RegistrationParams}
    (hhash : params.phoneHash = hashPhone cfg params.phoneNumber)
    (hholds : ∀ item ∈ registrationItems params,
      item.holds pool.store = true) :
    Step (tableRules cfg) (ledger pool.store)
      (.register params.phoneNumber (params.otpExpiresAt, params.otpMAC)
        params.userID params.sessionID)
      (ledger ((registrationItems params).foldl TransactWriteItem.write
        pool.store)) := by
  obtain ⟨⟨item, hitem, hafter⟩, huser, hsentinel, hsession⟩ :=
    registration_committed hholds
  have hcode := code_of_consumable hitem
  rw [hafter]
  rw [hhash] at hcode ⊢
  refine step_of_columns (Step.register params.phoneNumber _ params.userID
    params.sessionID hcode (column_absent huser) (column_absent hsentinel)
    (column_absent hsession)) rfl ?_ ?_ column_insert
  · exact column_insert.trans
      (congrArg (Function.update · _ _) column_insert)
  · rw [← codeEntry_consumed hitem]
    exact column_insert

theorem login_step {params : LoginParams} {phone : String}
    (hhash : params.phoneHash = hashPhone cfg phone)
    (hphone : HasPhone pool.store params.userID phone)
    (hholds : ∀ item ∈ loginItems params, item.holds pool.store = true) :
    Step (tableRules cfg) (ledger pool.store)
      (.login params.phoneHash (params.otpExpiresAt, params.otpMAC)
        params.userID params.sessionID)
      (ledger ((loginItems params).foldl TransactWriteItem.write
        pool.store)) := by
  obtain ⟨⟨item, hitem, hafter⟩, hsession⟩ := login_committed hholds
  obtain ⟨user, huser, rfl⟩ := hphone
  have hcode := code_of_consumable hitem
  rw [hafter]
  rw [hhash] at hcode ⊢
  refine step_of_columns (Step.login user.phoneNumber _ params.userID
    params.sessionID hcode (column_eq huser) (column_absent hsession)) rfl rfl
    ?_ column_insert
  rw [← codeEntry_consumed hitem]
  exact column_insert

theorem matched_commit {items : List TransactWriteItem}
    (hreach : (machine cfg).Reach admissible (start clock) pool)
    (hcall : pool.calls.lookup id = some call)
    (hguard : guard cfg call.req call.history (.transactWriteItems items))
    (hholds : ∀ item ∈ items, item.holds pool.store = true) :
    Matched cfg pool.store ⟨.transactWriteItems items, .ok ()⟩
      (items.foldl TransactWriteItem.write pool.store) := by
  obtain ⟨phone, otpCandidate, deviceID, -, hverify⟩ :=
    verifyOTP_of_guard hguard
  rcases hverify with ⟨registration, -, rfl, -⟩ |
    ⟨login, created, -, rfl, holder⟩
  · exact Or.inr ⟨_, rfl, register_step rfl hholds⟩
  · have hlisted : (⟨.usersQuery phone,
        .ok (login.userID :: login.others)⟩ : Entry) ∈ call.history := by
      simp [holder, Login.evictedEntries, Login.listedEntries,
        Login.listingEntries, foundEntries]
    have hphone := hasPhone_of_listed hreach hcall hlisted
      List.mem_cons_self
    exact Or.inr ⟨_, rfl, login_step rfl hphone hholds⟩

/-- An update keeps the owner if there is one. -/
theorem owner_updated (update : SessionUpdate) (item : Option SessionItem) :
    (updatedSession update item).userID =
      (item.map SessionItem.userID).join := by
  cases item <;> rfl

/-- Every performed request matches. -/
theorem matched_of_exec {op : Op} {response : op.Res}
    (hreach : (machine cfg).Reach admissible (start clock) pool)
    (hexec : Exec cfg pool id call op response after) :
    Matched cfg pool.store ⟨op, response⟩ after := by
  have hguard := hexec.guarded
  cases hexec.effect with
  | unchanged hkeeps => exact Or.inl ⟨actionOf_of_keepsStore hkeeps, rfl⟩
  | otpPut phoneHash item now hreplaceable =>
      exact Or.inr ⟨_, rfl, step_of_columns
        (issue_step hreach hexec.lookup hguard hreplaceable) rfl rfl
        column_insert rfl⟩
  | otpIncremented phoneHash item hitem =>
      exact Or.inl ⟨rfl,
        ledger_of_columns rfl rfl (column_rewritten hitem rfl) rfl⟩
  | sessionUpdated sessionID update =>
      refine Or.inr ⟨.rotate sessionID, rfl,
        step_of_columns (Step.rotate sessionID) rfl rfl rfl ?_⟩
      rw [column_insert, owner_updated]
      rfl
  | sessionDeleted sessionID =>
      exact Or.inr ⟨.close sessionID, rfl,
        step_of_columns (Step.close sessionID) rfl rfl rfl column_erase⟩
  | committed items hholds =>
      exact matched_commit hreach hexec.lookup hguard hholds
  | _ => exact Or.inl ⟨rfl, rfl⟩

end Matching

section Runs

/-- Time passes over the ledger as over the tables. -/
theorem ledger_advanced {change : Env} {before after : Store}
    (hadvance : advance change before = some after) :
    ledger after = { ledger before with now := after.clock } := by
  have hframed := framed_of_advance hadvance
  rw [ledger, hframed.users, hframed.otpRequests, hframed.sessions, ledger]

theorem run_of_reach
    (hreach : (machine cfg).Reach admissible (start clock) pool) :
    Run (tableRules cfg) (ledger (Store.empty clock)) (actions pool)
      (ledger pool.store) := by
  refine invariant (I := fun pool => Run (tableRules cfg)
    (ledger (Store.empty clock)) (actions pool) (ledger pool.store))
    Run.start ?_ ?_ ?_ hreach
  · intro pool id req _ ih _ _ _
    exact ih
  · intro pool id choice call op next response after hpool ih hexec _ _
    have hlog : actions (pool.execCall id call op next response after) =
        (actionOf ⟨op, response⟩).toList ++ actions pool := by
      cases haction : actionOf ⟨op, response⟩ <;>
        simp [actions, Pool.execCall, haction]
    rw [hlog]
    rcases matched_of_exec hpool hexec with ⟨haction, hledger⟩ |
      ⟨action, haction, hstep⟩
    · rw [haction, Pool.execCall, hledger]
      exact ih
    · rw [haction]
      exact ih.act hstep
  · intro pool change after _ ih hadvance _ _
    change Run _ _ (actions pool) (ledger after)
    rw [ledger_advanced hadvance]
    exact ih.pass (framed_of_advance hadvance).clock

/-- The service refines its purpose: whatever the interleaving, and whatever
fails, the writes that were performed are a run of the ledger from the empty
one to the one that the tables spell out. -/
theorem service_refines_ledger (cfg : AuthServiceConfig) (clock : Time)
    (pool : Pool) (hreach : (machine cfg).Reach anyStep (start clock) pool) :
    Run (tableRules cfg) (ledger (Store.empty clock)) (actions pool)
      (ledger pool.store) :=
  run_of_reach hreach

/-- A phone registers, logs in on a second device, and logs out on the first
while a refresh of that session is under way. -/
def overtakenRefresh : Pool :=
  (machine (deployment [firstClaims])).runTo anyStep (start evening)
    (registration ++ [.env (.replicateUser user)] ++
      serve 2 (.requestOTP phone "203.0.113.7") (issuing 654321) ++
      serve 3 (.verifyOTP phone "654321" "device-b")
        (accepting ++ finding user [] ++ loggingIn sessionB refreshB) ++
      serve 4 (.refreshTokens (tokenText firstClaims) refreshA "device-a")
        (rotating refreshC) ++
      serve 5 (.logout (tokenText firstClaims)) [.ok, .ok] ++
      resume 4 [.ok])

/-- The two codes of that phone. -/
def firstCode : CodeVersion :=
  (format (evening + 300 * second),
    "21b29b7b419b291c614aa7fadb3bcd1bcf964e0b95eaac3083c8bfb03b73f48b")

def secondCode : CodeVersion :=
  (format (evening + 300 * second),
    "6beb6bc87dd908c505ef0ffe923c63e17d24876101934a198d8e7a684c15f5f1")

theorem overtakenRefresh_refines :
    Run (tableRules (deployment [firstClaims]))
      (ledger (Store.empty evening))
      [.rotate session, .close session,
        .login phoneDigest secondCode user sessionB,
        .issue phoneDigest secondCode,
        .register phone firstCode user session,
        .issue phoneDigest firstCode]
      (ledger overtakenRefresh.store) := by
  have hactions : actions overtakenRefresh =
      [.rotate session, .close session,
        .login phoneDigest secondCode user sessionB,
        .issue phoneDigest secondCode,
        .register phone firstCode user session,
        .issue phoneDigest firstCode] := by
    decide +kernel
  rw [← hactions]
  exact service_refines_ledger (deployment [firstClaims]) evening
    overtakenRefresh (Machine.reach_runTo _)

end Runs

section Integrity

/-- A session with all its attributes.  Its user is one who is registered with
a phone and owns the reservation of it, or the key of that reservation, which
`FindByPhone` can return for the user. -/
def Owned (store : Store) (item : SessionItem) : Prop :=
  (∃ phoneNumber userID, Registers store phoneNumber userID ∧
    (item.userID = some userID ∨
      item.userID = some (phoneSentinelKey phoneNumber))) ∧
  item.deviceID.isSome = true ∧ item.createdAt.isSome = true

/-- What a rotation leaves of a session that was deleted before it. -/
def Remnant (item : SessionItem) : Prop :=
  item.userID = none ∧ item.deviceID = none ∧ item.createdAt = none

theorem phone_iff {store : Store} {key phoneNumber : String} :
    (ledger store).phone key = some phoneNumber ↔
      HasPhone store key phoneNumber :=
  Option.map_eq_some_iff

theorem sound_of_reach
    (hreach : (machine cfg).Reach admissible (start clock) pool) :
    Sound (ledger pool.store) := by
  apply (run_of_reach hreach).sound
  intro sessionID key howner
  cases howner

/-- The attributes that only the creation writes are all there or all gone. -/
theorem complete_or_remnant
    (hreach : (machine cfg).Reach admissible (start clock) pool)
    {sessionID : String} {item : SessionItem}
    (hitem : pool.store.sessions.lookup sessionID = some item) :
    (item.userID.isSome = true ∧ item.deviceID.isSome = true ∧
      item.createdAt.isSome = true) ∨ Remnant item := by
  refine invariant (I := fun pool => ∀ item,
    pool.store.sessions.lookup sessionID = some item →
      (item.userID.isSome = true ∧ item.deviceID.isSome = true ∧
        item.createdAt.isSome = true) ∨ Remnant item)
    ?_ ?_ ?_ ?_ hreach item hitem
  · intro item hitem
    simp [start, Pool.initial, Store.empty] at hitem
  · intro pool id req _ ih _ _ _
    exact ih
  · intro pool id choice call op next response after _ ih hexec _ _ item hitem
    have hchange := sessionChange_of_effect sessionID hexec.guarded
      hexec.effect
    rw [show after.sessions.lookup sessionID = some item from hitem]
      at hchange
    generalize hbefore : pool.store.sessions.lookup sessionID = earlier
      at hchange
    cases hchange with
    | kept hkeeps => exact ih item hbefore
    | rotated update =>
        cases earlier with
        | none => exact Or.inr ⟨rfl, rfl, rfl⟩
        | some old => exact ih old hbefore
    | created items item habsent hput =>
        obtain ⟨phone, otpCandidate, deviceID, created, userID, -, hproposal⟩ :=
          proposal_of_guard hexec.guarded
        rw [hproposal.creates] at hput
        cases hput
        exact Or.inl ⟨rfl, rfl, rfl⟩
  · intro pool change after _ ih hadvance _ _ item hitem
    apply ih item
    rw [← (framed_of_advance hadvance).sessions]
    exact hitem

theorem owned_of_stored
    (hreach : (machine cfg).Reach admissible (start clock) pool)
    {sessionID key : String} {item : SessionItem}
    (hitem : pool.store.sessions.lookup sessionID = some item)
    (hkey : item.userID = some key) : Owned pool.store item := by
  have howner : (ledger pool.store).owner sessionID = some (some key) :=
    (column_eq hitem).trans (congrArg some hkey)
  obtain ⟨phoneNumber, hphone⟩ := sound_of_reach hreach sessionID key howner
  obtain ⟨_, hregistered⟩ := exists_registered hreach
  obtain ⟨userID, hregisters, hnamed⟩ :=
    registers_of_hasPhone hregistered (phone_iff.mp hphone)
  rcases complete_or_remnant hreach hitem with ⟨-, hrest⟩ | hremnant
  · refine ⟨⟨phoneNumber, userID, hregisters, ?_⟩, hrest⟩
    rw [hkey, Option.some.injEq, Option.some.injEq]
    exact hnamed
  · rw [hremnant.1] at hkey
    cases hkey

theorem Owned.later {later : Pool} {item : SessionItem}
    (howned : Owned pool.store item)
    (hreach : (machine cfg).Reach admissible pool later) :
    Owned later.store item := by
  obtain ⟨⟨phoneNumber, userID, hregisters, hnamed⟩, hrest⟩ := howned
  exact ⟨⟨phoneNumber, userID, hregisters.later hreach, hnamed⟩, hrest⟩

/-- However stale the index of the sessions, what it lists is owned. -/
theorem owned_of_indexed
    (hreach : (machine cfg).Reach admissible (start clock) pool)
    {sessionID : String} {item : SessionItem}
    (hitem : pool.store.userSessionsIndex.lookup sessionID = some item) :
    Owned pool.store item := by
  refine invariant (I := fun pool => ∀ item,
    pool.store.userSessionsIndex.lookup sessionID = some item →
      Owned pool.store item) ?_ ?_ ?_ ?_ hreach item hitem
  · intro item hitem
    simp [start, Pool.initial, Store.empty] at hitem
  · intro pool id req _ ih _ _ _
    exact ih
  · intro pool id choice call op next response after _ ih hexec _ hlater item
      hitem
    rw [Pool.execCall, hexec.effect.userSessionsIndex] at hitem
    exact (ih item hitem).later hlater
  · intro pool change after hpool ih hadvance _ hlater item hitem
    refine Owned.later ?_ hlater
    rcases indexed_of_advance hadvance hitem with hlisted | ⟨hstored, hkeyed⟩
    · exact ih item hlisted
    · obtain ⟨key, hkey⟩ := Option.isSome_iff_exists.mp hkeyed
      exact owned_of_stored hpool hstored hkey

/-- Every session in the table is owned by a registered user or by the key that
reserves a user's phone, or it is a remnant without user, device and creation
time; and whatever the index of the sessions lists, stale or not, is owned. -/
theorem sessions_have_users (cfg : AuthServiceConfig) (clock : Time)
    (pool : Pool) (hreach : (machine cfg).Reach anyStep (start clock) pool)
    (sessionID : String) (item : SessionItem) :
    (pool.store.sessions.lookup sessionID = some item →
      Owned pool.store item ∨ Remnant item) ∧
    (pool.store.userSessionsIndex.lookup sessionID = some item →
      Owned pool.store item) := by
  constructor
  · intro hitem
    rcases complete_or_remnant hreach hitem with ⟨hkeyed, -⟩ | hremnant
    · obtain ⟨key, hkey⟩ := Option.isSome_iff_exists.mp hkeyed
      exact Or.inl (owned_of_stored hreach hitem hkey)
    · exact Or.inr hremnant
  · intro hitem
    exact owned_of_indexed hreach hitem

/-- The session of the second device is owned by the user; of the first a
remnant is left. -/
theorem overtakenRefresh_has_users :
    (∃ item ∈ overtakenRefresh.store.sessions.lookup sessionB,
      item.userID = some user ∧ Owned overtakenRefresh.store item ∧
      ∃ phoneNumber, Registers overtakenRefresh.store phoneNumber user) ∧
    ∃ item ∈ overtakenRefresh.store.sessions.lookup session,
      Remnant item := by
  have hrun : (∃ item ∈ overtakenRefresh.store.sessions.lookup sessionB,
        item.userID = some user) ∧ isPhoneSentinelKey user = false ∧
      ∃ item ∈ overtakenRefresh.store.sessions.lookup session,
        item.userID = none := by decide +kernel
  obtain ⟨⟨item, hitem, hkey⟩, huser, remnant, hremnant, hnone⟩ := hrun
  have hsessions := sessions_have_users (deployment [firstClaims]) evening
    overtakenRefresh (Machine.reach_runTo _)
  refine ⟨⟨item, hitem, hkey, ?_⟩, remnant, hremnant, ?_⟩
  · rcases (hsessions sessionB item).1 hitem with howned | hleft
    · refine ⟨howned, ?_⟩
      obtain ⟨⟨phoneNumber, userID, hregisters, hnamed⟩, -⟩ := howned
      rw [hkey, Option.some.injEq, Option.some.injEq] at hnamed
      rcases hnamed with rfl | hsentinel
      · exact ⟨phoneNumber, hregisters⟩
      · rw [hsentinel, isPhoneSentinelKey_phoneSentinelKey] at huser
        cases huser
    · rw [hleft.1] at hkey
      cases hkey
  · rcases (hsessions session remnant).1 hremnant with howned | hleft
    · obtain ⟨⟨phoneNumber, userID, -, hnamed⟩, -⟩ := howned
      simp [hnone] at hnamed
    · exact hleft

end Integrity

end MessagingPlatform.Refinement
