import MessagingPlatform.System.Deployment
import MessagingPlatform.System.Registrations
import MessagingPlatform.System.StoredCodes

/-!
# The session limit

Listing, evicting and creating sessions are separate requests without a lock.
What serialises the logins of a user is the code: whoever creates a session
consumes the record that it has read, so between the list and the transaction
of a login that commits, no other session of the user is created.
-/

namespace MessagingPlatform.SessionLimit

open Program
open Interleaving
open Instants
open Records
open Primitives
open Tables
open Operations
open Effects
open Freshness
open Stores
open StoreRules
open Flows
open Transactions
open VerifyRules
open Service
open ServiceRules
open MessagingPlatform.Runs
open Commits
open Registrations
open StoredCodes
open Deployment

section Conditions

def isRefresh : Request → Bool
  | .refreshTokens _ _ _ => true
  | _ => false

/-- The query lists every session of the user that the table holds. -/
def ListsAll (store : Store) (userID : String) : Prop :=
  ∀ row ∈ store.sessions.entries, row.2.userID = some userID →
    row ∈ store.userSessionsIndex.entries

instance (store : Store) (userID : String) :
    Decidable (ListsAll store userID) :=
  inferInstanceAs (Decidable (∀ _ ∈ _, _))

/-- Lists of sessions see all committed writes. -/
def seesCommitted (store : Store) (op : Op) : Prop :=
  ∀ userID ∈ op.sessionsListed, ListsAll store userID

instance (store : Store) (op : Op) : Decidable (seesCommitted store op) :=
  inferInstanceAs (Decidable (∀ _ ∈ op.sessionsListed, _))

def startsNoRefresh : Label → Prop
  | .start _ req => isRefresh req = false
  | _ => True

instance (label : Label) : Decidable (startsNoRefresh label) :=
  match label with
  | .start _ req => inferInstanceAs (Decidable (isRefresh req = false))
  | .exec _ _ => isTrue trivial
  | .env _ => isTrue trivial

/-- Runs of code requests, verifications and logouts in which lists see all
committed writes. -/
def listsSeeCommitted (pool : Pool) (label : Label) : Prop :=
  whenPerforming seesCommitted pool label ∧ startsNoRefresh label

instance (pool : Pool) (label : Label) :
    Decidable (listsSeeCommitted pool label) :=
  inferInstanceAs (Decidable (_ ∧ _))

end Conditions

/-- The sessions of a user that have not expired. -/
def activeSessions (store : Store) (userID : String) :
    List ((_ : String) × SessionItem) :=
  store.sessions.entries.filter fun row =>
    row.2.userID == some userID &&
      (format store.clock).before row.2.expiresAt

section Active

variable {before after : Store} {userID : String}
variable {row : (_ : String) × SessionItem}

theorem mem_activeSessions {store : Store} :
    row ∈ activeSessions store userID ↔
      row ∈ store.sessions.entries ∧ row.2.userID = some userID ∧
        (format store.clock).before row.2.expiresAt = true := by
  simp [activeSessions]

theorem before_of_le {early late : Time} {expiresAt : TimeText}
    (hle : early ≤ late) (hbefore : (format late).before expiresAt = true) :
    (format early).before expiresAt = true := by
  cases expiresAt with
  | empty => cases hbefore
  | rfc3339 unixSecond =>
      simp only [format, TimeText.before, decide_eq_true_eq] at hbefore ⊢
      have hseconds : early / second ≤ late / second :=
        Int.ediv_le_ediv (by decide) hle
      exact hseconds.trans_lt hbefore

/-- Sessions become fewer when some are deleted and when time passes. -/
theorem activeSessions_sublist
    (hentries : after.sessions.entries.Sublist before.sessions.entries)
    (hclock : before.clock ≤ after.clock) :
    (activeSessions after userID).Sublist (activeSessions before userID) := by
  have hfewer : (after.sessions.entries.filter fun row =>
      row.2.userID == some userID &&
        (format after.clock).before row.2.expiresAt).Sublist
      (after.sessions.entries.filter fun row =>
        row.2.userID == some userID &&
          (format before.clock).before row.2.expiresAt) := by
    apply List.monotone_filter_right
    intro row hrow
    simp only [Bool.and_eq_true] at hrow ⊢
    exact ⟨hrow.1, before_of_le hclock hrow.2⟩
  exact hfewer.trans (hentries.filter _)

end Active

variable {cfg : AuthServiceConfig} {clock : Time} {pool : Pool}

section Steps

variable {admissible : Pool → Label → Prop}
variable {id : ℕ} {call : Call} {op : Op} {response : op.Res} {after : Store}

/-- What a call that is no refresh can do to the sessions. -/
inductive SessionsChange (cfg : AuthServiceConfig) (call : Call)
    (before : Store) : Entry → Store → Prop
  | kept {entry : Entry} {after : Store}
      (hsessions : after.sessions = before.sessions)
      (hentry : ∀ sessionID,
        entry ≠ ⟨.sessionsDeleteItem sessionID, .ok ()⟩) :
      SessionsChange cfg call before entry after
  | deleted {after : Store} (sessionID : String)
      (hsessions : after.sessions = before.sessions.erase sessionID) :
      SessionsChange cfg call before
        ⟨.sessionsDeleteItem sessionID, .ok ()⟩ after
  | created {after : Store} {phone otpCandidate deviceID userID : String}
      {items : List TransactWriteItem} {tried : Attempt}
      {created : NewSession} {item : OTPItem}
      (hreq : call.req = .verifyOTP phone otpCandidate deviceID)
      (hcommit : Commit cfg phone otpCandidate deviceID call.history items
        before after tried created userID item) :
      SessionsChange cfg call before ⟨.transactWriteItems items, .ok ()⟩ after

theorem sessionsChange_of_exec
    (hexec : Exec cfg pool id call op response after)
    (hrefresh : isRefresh call.req = false) :
    SessionsChange cfg call pool.store ⟨op, response⟩ after := by
  obtain ⟨-, -, hguard, heffect, -⟩ := hexec
  cases heffect with
  | unchanged hkeeps =>
      apply SessionsChange.kept rfl
      rintro sessionID heq
      rw [heq] at hkeeps
      cases hkeeps
  | sessionUpdated sessionID update =>
      cases hreq : call.req with
      | refreshTokens accessToken refreshToken deviceID =>
          rw [hreq] at hrefresh
          cases hrefresh
      | _ =>
          rw [hreq] at hguard
          exact hguard.elim
  | sessionDeleted sessionID => exact .deleted sessionID rfl
  | committed items hholds =>
      obtain ⟨phone, otpCandidate, deviceID, hreq, hverify⟩ :=
        verifyOTP_of_guard hguard
      obtain ⟨tried, created, userID, item, hcommit⟩ :=
        commit_of_guard hverify hholds
      exact .created hreq hcommit
  | _ => exact .kept rfl (fun sessionID heq => by cases heq)

/-- No call of such a run is a refresh. -/
theorem isRefresh_of_reach
    (hreach : (machine cfg).Reach listsSeeCommitted (start clock) pool)
    (hcall : pool.calls.lookup id = some call) :
    isRefresh call.req = false := by
  refine invariant (I := fun pool => ∀ id call,
    pool.calls.lookup id = some call → isRefresh call.req = false)
    ?_ ?_ ?_ ?_ hreach id call hcall
  · intro id call hcall
    simp [start, Pool.initial] at hcall
  · intro pool id req _ ih _ hadmissible _ other call hcall
    rcases lookup_startCall hcall with ⟨hreq, -⟩ | hold
    · rw [hreq]
      exact hadmissible.2
    · exact ih other call hold
  · intro pool id choice call op next response after _ ih hexec _ _ other later
      hcall
    rcases lookup_execCall hcall with ⟨-, hreq, -⟩ | ⟨-, hold⟩
    · rw [hreq]
      exact ih id call hexec.lookup
    · exact ih other later hold
  · intro pool change after _ ih _ _ _
    exact ih

/-- A record that could be consumed after a request could be consumed before
it, because the version cannot have been stored again. -/
theorem consumable_before {phoneHash otpMAC : String} {expiresAt : TimeText}
    {item : OTPItem} (hexec : Exec cfg pool id call op response after)
    (hversion : (phoneHash, expiresAt, otpMAC) ∈
      mentioned storedVersion pool.log)
    (hnodup : ((storedVersion ⟨op, response⟩).toList ++
      mentioned storedVersion pool.log).Nodup)
    (hafter : Consumable after phoneHash expiresAt otpMAC item) :
    ∃ earlier, Consumable pool.store phoneHash expiresAt otpMAC earlier := by
  have hchange := recordChange_of_effect phoneHash hexec.guarded hexec.effect
  obtain ⟨hstored, hpending, rfl, rfl⟩ := hafter
  rw [hstored] at hchange
  generalize hbefore : pool.store.otpRequests.lookup phoneHash = earlier
    at hchange
  cases hchange with
  | kept hkeeps => exact ⟨item, hbefore, hpending, rfl, rfl⟩
  | stored item now hreplaceable =>
      have hnew := (List.nodup_cons.mp hnodup).1
      exact absurd hversion hnew
  | incremented old hold => exact ⟨old, hbefore.trans hold, hpending, rfl, rfl⟩
  | consumed items old hold _ => cases hpending

end Steps

section Listing

/-- A login that has listed the sessions of its user. -/
structure Lists (cfg : AuthServiceConfig) (call : Call) (phone : String)
    (login : Login) : Prop where
  accepted : ∃ otpCandidate deviceID,
    call.req = .verifyOTP phone otpCandidate deviceID ∧
      Accepted (hashPhone cfg phone) otpCandidate login.tried login.base
  listed : login.listedEntries phone <:+ call.history

/-- As long as the code of the login can be consumed, its list is complete, and
no session that it has deleted is there. -/
def Current (cfg : AuthServiceConfig) (store : Store) (call : Call)
    (phone : String) (login : Login) : Prop :=
  (∃ item, Consumable store (hashPhone cfg phone) login.tried.item.expiresAt
    login.tried.item.otpMAC item) →
  ∀ row ∈ activeSessions store login.userID, (row.1, row.2) ∈ login.rows ∧
    (⟨.sessionsDeleteItem row.1, .ok ()⟩ : Entry) ∉ call.history

variable {admissible : Pool → Label → Prop} {id : ℕ} {call : Call}
variable {phone : String} {login : Login}

theorem Lists.base_suffix (hlists : Lists cfg call phone login) :
    login.base <:+ call.history := by
  apply List.IsSuffix.trans _ hlists.listed
  exact List.suffix_append
    (⟨.sessionsQuery login.userID (format login.listedAt), .ok login.rows⟩ ::
      ⟨.clockNow, login.listedAt⟩ ::
      foundEntries phone login.userID login.others login.userItem) login.base

/-- The user of a login has the phone of the login. -/
theorem Lists.hasPhone (hlists : Lists cfg call phone login)
    (hreach : (machine cfg).Reach admissible (start clock) pool)
    (hcall : pool.calls.lookup id = some call) :
    HasPhone pool.store login.userID phone := by
  have hfound : (⟨.usersQuery phone,
      .ok (login.userID :: login.others)⟩ : Entry) ∈ call.history := by
    apply hlists.listed.subset
    simp [Login.listedEntries, Login.listingEntries, foundEntries]
  exact hasPhone_of_listed hreach hcall hfound List.mem_cons_self

/-- The record that a login has read was stored. -/
theorem Lists.version (hlists : Lists cfg call phone login)
    (hreach : (machine cfg).Reach admissible (start clock) pool)
    (hcall : pool.calls.lookup id = some call) :
    versionOf (hashPhone cfg phone) login.tried.item ∈
      mentioned storedVersion pool.log := by
  obtain ⟨otpCandidate, deviceID, -, haccepted⟩ := hlists.accepted
  apply version_of_read hreach hcall
  apply hlists.base_suffix.subset
  apply haccepted.compared.subset
  simp [Attempt.comparedEntries, Attempt.readEntries]

/-- A fresh list is complete, and nothing has been deleted yet. -/
theorem current_of_query {op : Op} {response : op.Res} {after : Store}
    (hreach : (machine cfg).Reach admissible (start clock) pool)
    (hexec : Exec cfg pool id call op response after)
    (hsees : seesCommitted pool.store op) {later : Call}
    (hlater : later.history = ⟨op, response⟩ :: call.history)
    (hlists : Lists cfg later phone login)
    (hfresh : login.listedEntries phone = ⟨op, response⟩ :: call.history) :
    Current cfg after later phone login := by
  rintro - row hrow
  obtain ⟨otpCandidate, deviceID, -, haccepted⟩ := hlists.accepted
  obtain ⟨hentry, hhistory⟩ := List.cons.inj hfresh
  cases hentry
  have hafter : after = pool.store := by
    cases hexec.effect with
    | unchanged hkeeps => rfl
  subst hafter
  obtain ⟨hstored, huser, hactive⟩ := mem_activeSessions.mp hrow
  constructor
  · have hlistedAt : login.listedAt ≤ pool.store.clock := by
      apply read_le_clock hreach hexec.lookup
      rw [← hhistory]
      exact List.mem_cons_self
    have hindexed := hsees _ rfl row hstored huser
    have hkey : row.1 ∈ pool.store.activeKeys login.userID
        (format login.listedAt) := by
      simp only [Store.activeKeys, List.mem_map, List.mem_filter]
      refine ⟨row, ⟨hindexed, ?_⟩, rfl⟩
      simp [huser, before_of_le hlistedAt hactive]
    obtain ⟨keys, hperm, hrows⟩ := hexec.answers
    rw [hrows, Store.indexedSessions, List.mem_filterMap]
    refine ⟨row.1, hperm.mem_iff.mpr hkey, ?_⟩
    rw [Option.mem_def.mp (AList.mem_lookup_iff.mpr hindexed)]
    rfl
  · intro hdeleted
    rw [hlater, ← hhistory] at hdeleted
    simp only [Login.listingEntries, foundEntries, List.cons_append,
      List.nil_append, List.mem_cons, Sigma.mk.injEq, reduceCtorEq, false_and,
      false_or] at hdeleted
    cases haccepted.quiet _ hdeleted

/-- A login that commits has listed the sessions of its user. -/
theorem lists_of_login {otpCandidate deviceID : String} {created : NewSession}
    (hreq : call.req = .verifyOTP phone otpCandidate deviceID)
    (haccepted : Accepted (hashPhone cfg phone) otpCandidate login.tried
      login.base)
    (hhistory : call.history = created.entries ++
      login.evictedEntries phone (login.evicted cfg deviceID)) :
    Lists cfg call phone login where
  accepted := ⟨otpCandidate, deviceID, hreq, haccepted⟩
  listed := by
    rw [hhistory, Login.evictedEntries, ← List.append_assoc]
    exact List.suffix_append _ _

/-- A commit that creates a session for the user of a phone consumes the record
of that phone. -/
theorem phone_of_commit {acting : Call} {other : ℕ}
    {phone' otpCandidate deviceID userID : String} {after : Store}
    {items : List TransactWriteItem} {tried : Attempt} {created : NewSession}
    {item : OTPItem}
    (hreach : (machine cfg).Reach admissible (start clock) pool)
    (hacting : pool.calls.lookup other = some acting)
    (hreq : acting.req = .verifyOTP phone' otpCandidate deviceID)
    (hcommit : Commit cfg phone' otpCandidate deviceID acting.history items
      pool.store after tried created userID item)
    (hphone : HasPhone pool.store userID phone) : phone' = phone := by
  cases hcommit.path with
  | registration base haccepted holder huser hsentinel husers =>
      obtain ⟨stored, hstored, -⟩ := hphone
      rw [huser] at hstored
      cases hstored
  | login login htried huserID haccepted holder husers =>
      have hlists := lists_of_login hreq haccepted holder
      have hphone' := hlists.hasPhone hreach hacting
      rw [huserID] at hphone'
      exact hasPhone_unique hphone' hphone

/-- Another request leaves a list current. -/
theorem current_of_exec {op : Op} {response : op.Res} {after : Store}
    {other : ℕ} {acting later : Call}
    (hreach : (machine cfg).Reach admissible (start clock) pool)
    (hexec : Exec cfg pool other acting op response after)
    (hrefresh : isRefresh acting.req = false)
    (hnodup : ((storedVersion ⟨op, response⟩).toList ++
      mentioned storedVersion pool.log).Nodup)
    (hcall : pool.calls.lookup id = some call)
    (hlists : Lists cfg call phone login)
    (hcurrent : Current cfg pool.store call phone login)
    (hlater : ∀ entry ∈ later.history,
      entry = ⟨op, response⟩ ∨ entry ∈ call.history) :
    Current cfg after later phone login := by
  rintro ⟨item, hconsumable⟩ row hrow
  have hbefore := hcurrent (consumable_before hexec
    (hlists.version hreach hcall) hnodup hconsumable)
  have hkeep : row ∈ activeSessions pool.store login.userID →
      (⟨op, response⟩ : Entry) ≠ ⟨.sessionsDeleteItem row.1, .ok ()⟩ →
      (row.1, row.2) ∈ login.rows ∧
        (⟨.sessionsDeleteItem row.1, .ok ()⟩ : Entry) ∉ later.history := by
    intro hold hentry
    refine ⟨(hbefore row hold).1, fun hdeleted => ?_⟩
    rcases hlater _ hdeleted with heq | hearlier
    · exact hentry heq.symm
    · exact (hbefore row hold).2 hearlier
  obtain ⟨hstored, huser, hactive⟩ := mem_activeSessions.mp hrow
  rw [hexec.effect.clock] at hactive
  cases sessionsChange_of_exec hexec hrefresh with
  | kept hsessions hentry =>
      rw [hsessions] at hstored
      exact hkeep (mem_activeSessions.mpr ⟨hstored, huser, hactive⟩)
        (hentry row.1)
  | deleted sessionID hsessions =>
      rw [hsessions] at hstored
      have hrow : row ∈ pool.store.sessions.entries :=
        (List.kerase_sublist _ _).subset hstored
      apply hkeep (mem_activeSessions.mpr ⟨hrow, huser, hactive⟩)
      intro hsame
      cases hsame
      have habsent : row.1 ∉ pool.store.sessions.erase row.1 :=
        fun hmem => (AList.mem_erase.mp hmem).1 rfl
      exact habsent (List.mem_keys_of_mem hstored)
  | created hreq hcommit =>
      have habsent := AList.lookup_eq_none.mp hcommit.absent
      rw [hcommit.sessions, AList.entries_insert_of_notMem habsent] at hstored
      rcases List.mem_cons.mp hstored with rfl | hold
      · cases huser
        have hphone := phone_of_commit hreach hexec.lookup hreq hcommit
          (hlists.hasPhone hreach hcall)
        subst hphone
        have hverified := hconsumable.stored
        rw [hcommit.otpRequests, AList.lookup_insert,
          Option.some.injEq] at hverified
        have hpending := hconsumable.pending
        rw [← hverified] at hpending
        cases hpending
      · exact hkeep (mem_activeSessions.mpr ⟨hold, huser, hactive⟩)
          (fun heq => by cases heq)

theorem current_of_advance {change : Operations.Env} {after : Store}
    (hadvance : advance change pool.store = some after)
    (hcurrent : Current cfg pool.store call phone login) :
    Current cfg after call phone login := by
  have hframed := framed_of_advance hadvance
  rintro ⟨item, hconsumable⟩ row hrow
  have hstored := hconsumable.stored
  rw [hframed.otpRequests] at hstored
  apply hcurrent ⟨item, { hconsumable with stored := hstored }⟩
  have hfewer : (activeSessions after login.userID).Sublist
      (activeSessions pool.store login.userID) := by
    apply activeSessions_sublist _ hframed.clock
    rw [hframed.sessions]
  exact hfewer.subset hrow

/-- Lists stay current as long as their codes can be consumed. -/
theorem current (hmac : MACDistinguishes cfg)
    (hreach : (machine cfg).Reach listsSeeCommitted (start clock) pool)
    (hcodes : (codeLog pool).Nodup)
    (hcall : pool.calls.lookup id = some call)
    (hlists : Lists cfg call phone login) :
    Current cfg pool.store call phone login := by
  refine invariant (I := fun pool => (codeLog pool).Nodup →
    ∀ id call phone login, pool.calls.lookup id = some call →
      Lists cfg call phone login →
      Current cfg pool.store call phone login) ?_ ?_ ?_ ?_ hreach hcodes id call
    phone login hcall hlists
  · intro _ id call phone login hcall
    simp [start, Pool.initial] at hcall
  · intro pool id req _ ih _ _ _ hcodes other call phone login hcall hlists
    rcases lookup_startCall hcall with ⟨-, hnil⟩ | hold
    · have hlisted := hlists.listed
      rw [hnil, List.suffix_nil] at hlisted
      cases hlisted
    · exact ih hcodes other call phone login hold hlists
  · intro pool id choice acting op next response after hpool ih hexec
      hadmissible hlater hcodes other later phone login hcall hlists
    have hold : (codeLog pool).Nodup :=
      hcodes.sublist (hlater.log_suffix.sublist.filterMap _)
    have hnodup := storedVersion_nodup hmac (hpool.trans hlater) hcodes
    rw [Pool.execCall, mentioned_cons] at hnodup
    have hrefresh := isRefresh_of_reach hpool hexec.lookup
    rcases lookup_execCall hcall with ⟨-, hreq, hhistory⟩ | ⟨-, hother⟩
    · have hlisted := hlists.listed
      rw [hhistory] at hlisted
      rcases List.suffix_cons_iff.mp hlisted with hfresh | hearlier
      · exact current_of_query hpool hexec (hadmissible.1 op hexec.nextOp)
          hhistory hlists hfresh
      · have hbefore : Lists cfg acting phone login :=
          ⟨hreq ▸ hlists.accepted, hearlier⟩
        apply current_of_exec hpool hexec hrefresh hnodup hexec.lookup hbefore
          (ih hold id acting phone login hexec.lookup hbefore)
        intro entry hentry
        rw [hhistory] at hentry
        exact List.mem_cons.mp hentry
    · exact current_of_exec hpool hexec hrefresh hnodup hother hlists
        (ih hold other later phone login hother hlists)
        fun entry hentry => Or.inr hentry
  · intro pool change after _ ih hadvance _ _ hcodes id call phone login hcall
      hlists
    exact current_of_advance hadvance (ih hcodes id call phone login hcall
      hlists)

end Listing

section Users

/-- The user of a session is registered. -/
theorem user_of_session {row : (_ : String) × SessionItem} {userID : String}
    (hreach : (machine cfg).Reach listsSeeCommitted (start clock) pool)
    (hrow : row ∈ pool.store.sessions.entries)
    (huser : row.2.userID = some userID) : userID ∈ pool.store.users := by
  refine invariant (I := fun pool => ∀ row ∈ pool.store.sessions.entries,
    ∀ userID, row.2.userID = some userID → userID ∈ pool.store.users)
    ?_ ?_ ?_ ?_ hreach row hrow userID huser
  · intro row hrow
    cases hrow
  · intro pool id req _ ih _ _ _
    exact ih
  · intro pool id choice call op next response after hpool ih hexec _ _ row
      hrow userID huser
    change row ∈ after.sessions.entries at hrow
    have hkeep : row ∈ pool.store.sessions.entries → userID ∈ after.users := by
      intro hold
      obtain ⟨item, hitem⟩ := Option.isSome_iff_exists.mp
        (AList.lookup_isSome.mpr (ih row hold userID huser))
      apply AList.lookup_isSome.mp
      rw [hexec.effect.users_kept hitem]
      rfl
    cases sessionsChange_of_exec hexec
        (isRefresh_of_reach hpool hexec.lookup) with
    | kept hsessions hentry => exact hkeep (hsessions ▸ hrow)
    | deleted sessionID hsessions =>
        rw [hsessions] at hrow
        exact hkeep ((List.kerase_sublist _ _).subset hrow)
    | created hreq hcommit =>
        have habsent := AList.lookup_eq_none.mp hcommit.absent
        rw [hcommit.sessions, AList.entries_insert_of_notMem habsent] at hrow
        rcases List.mem_cons.mp hrow with rfl | hold
        · cases huser
          cases hcommit.path with
          | registration base haccepted holder huser hsentinel husers =>
              change _ ∈ after.users
              rw [husers, AList.mem_insert, AList.mem_insert]
              exact Or.inr (Or.inl rfl)
          | login login htried huserID haccepted holder husers =>
              obtain ⟨item, hitem, -⟩ :=
                (lists_of_login hreq haccepted holder).hasPhone hpool
                  hexec.lookup
              change _ ∈ after.users
              rw [husers, ← huserID]
              apply AList.lookup_isSome.mp
              rw [hitem]
              rfl
        · exact hkeep hold
  · intro pool change after _ ih hadvance _ _ row hrow userID huser
    have hframed := framed_of_advance hadvance
    change row ∈ after.sessions.entries at hrow
    change userID ∈ after.users
    rw [hframed.sessions] at hrow
    rw [hframed.users]
    exact ih row hrow userID huser

end Users

section Bound

/-- What a login does not evict of its list leaves room for one more. -/
theorem length_lt_of_kept (cfg : AuthServiceConfig)
    {sessions kept : List SessionRecord} {deviceID : String}
    (hnodup : kept.Nodup)
    (hlisted : ∀ session ∈ kept, session ∈ sessions)
    (hconflicting : ∀ session ∈ kept,
      session ∉ conflictingSessions sessions deviceID)
    (hexcess : ∀ session ∈ kept,
      session ∉ excessSessions cfg sessions deviceID) :
    kept.length < maxSessionsPerUser := by
  let others := sessions.filter fun session => session.deviceID ≠ deviceID
  have hothers : kept ⊆ others := by
    intro session hsession
    have hdevice : session.deviceID ≠ deviceID := by
      intro hsame
      apply hconflicting session hsession
      simp [conflictingSessions, hlisted session hsession, hsame]
    simp [others, hlisted session hsession, hdevice]
  by_cases hroom : others.length < maxSessionsPerUser
  · exact ((List.subperm_of_subset hnodup hothers).length_le).trans_lt hroom
  · let sorted := cfg.sortSlice
      (fun left right => left.createdAt.before right.createdAt) others
    have hperm : sorted.Perm others := cfg.sortSlice_perm _ others
    have hexcessEq : excessSessions cfg sessions deviceID =
        sorted.take (others.length - maxSessionsPerUser + 1) := by
      rw [excessSessions]
      exact if_neg hroom
    have hyoung : kept ⊆
        sorted.drop (others.length - maxSessionsPerUser + 1) := by
      intro session hsession
      have hsorted := hperm.mem_iff.mpr (hothers hsession)
      rw [← List.take_append_drop (others.length - maxSessionsPerUser + 1)
        sorted, List.mem_append] at hsorted
      apply hsorted.resolve_left
      rw [← hexcessEq]
      exact hexcess session hsession
    have hlength := (List.subperm_of_subset hnodup hyoung).length_le
    rw [List.length_drop, hperm.length_eq] at hlength
    have hlimit : maxSessionsPerUser = 5 := rfl
    omega

/-- The records of the active sessions of a user. -/
def activeRecords (store : Store) (userID : String) : List SessionRecord :=
  (activeSessions store userID).map fun row => fromSessionItem row.1 row.2

theorem activeRecords_nodup (store : Store) (userID : String) :
    (activeRecords store userID).Nodup := by
  apply List.Nodup.of_map SessionRecord.sessionID
  rw [activeRecords, List.map_map]
  have hkeys : (store.sessions.entries.map Sigma.fst).Nodup :=
    store.sessions.nodupKeys
  exact hkeys.sublist (List.filter_sublist.map _)

theorem mem_evictionEntries_of_mem {sessions : List SessionRecord}
    {session : SessionRecord} (hsession : session ∈ sessions) :
    (⟨.sessionsDeleteItem session.sessionID, .ok ()⟩ : Entry) ∈
      evictionEntries sessions := by
  induction sessions with
  | nil => cases hsession
  | cons head rest ih =>
      rw [evictionEntries, List.mem_append]
      rcases List.mem_cons.mp hsession with rfl | hrest
      · exact Or.inr (by simp)
      · exact Or.inl (ih hrest)

/-- When a login commits, its user has room for the session, and none on the
device of the login. -/
theorem room_of_login {id : ℕ} {call : Call}
    {phone otpCandidate deviceID : String} {login : Login}
    {created : NewSession} (hmac : MACDistinguishes cfg)
    (hreach : (machine cfg).Reach listsSeeCommitted (start clock) pool)
    (hcodes : (codeLog pool).Nodup)
    (hcall : pool.calls.lookup id = some call)
    (hreq : call.req = .verifyOTP phone otpCandidate deviceID)
    (haccepted : Accepted (hashPhone cfg phone) otpCandidate login.tried
      login.base)
    (hhistory : call.history = created.entries ++
      login.evictedEntries phone (login.evicted cfg deviceID))
    (hconsumable : ∃ item, Consumable pool.store (hashPhone cfg phone)
      login.tried.item.expiresAt login.tried.item.otpMAC item) :
    (activeSessions pool.store login.userID).length < maxSessionsPerUser ∧
      ∀ row ∈ activeSessions pool.store login.userID,
        row.2.deviceID ≠ some deviceID := by
  have hcurrent := current hmac hreach hcodes hcall
    (lists_of_login hreq haccepted hhistory) hconsumable
  have hlisted : ∀ session ∈ activeRecords pool.store login.userID,
      session ∈ listedSessions login.rows := by
    intro session hsession
    obtain ⟨row, hrow, rfl⟩ := List.mem_map.mp hsession
    exact List.mem_map.mpr ⟨(row.1, row.2), (hcurrent row hrow).1, rfl⟩
  have hkept : ∀ session ∈ activeRecords pool.store login.userID,
      session ∉ login.evicted cfg deviceID := by
    intro session hsession hevicted
    obtain ⟨row, hrow, rfl⟩ := List.mem_map.mp hsession
    apply (hcurrent row hrow).2
    rw [hhistory, Login.evictedEntries]
    exact List.mem_append_right _ (List.mem_append_left _
      (mem_evictionEntries_of_mem hevicted))
  have hconflicting : ∀ session ∈ activeRecords pool.store login.userID,
      session ∉ conflictingSessions (listedSessions login.rows) deviceID :=
    fun session hsession hconflict =>
      hkept session hsession (List.mem_append_left _ hconflict)
  constructor
  · have hlength := length_lt_of_kept cfg
      (activeRecords_nodup pool.store login.userID) hlisted hconflicting
      fun session hsession hexcess =>
        hkept session hsession (List.mem_append_right _ hexcess)
    rwa [activeRecords, List.length_map] at hlength
  · intro row hrow hdevice
    have hrecord : fromSessionItem row.1 row.2 ∈
        activeRecords pool.store login.userID :=
      List.mem_map.mpr ⟨row, hrow, rfl⟩
    apply hconflicting _ hrecord
    have hsame : (fromSessionItem row.1 row.2).deviceID = deviceID := by
      simp [fromSessionItem, hdevice]
    exact List.mem_filter.mpr ⟨hlisted _ hrecord, decide_eq_true hsame⟩

/-- At most five active sessions, on different devices. -/
structure Limited (store : Store) (userID : String) : Prop where
  count : (activeSessions store userID).length ≤ maxSessionsPerUser
  devices : ((activeSessions store userID).map
    fun row => row.2.deviceID).Nodup

theorem Limited.sublist {before after : Store} {userID : String}
    (hlimited : Limited before userID)
    (hfewer : (activeSessions after userID).Sublist
      (activeSessions before userID)) : Limited after userID where
  count := hfewer.length_le.trans hlimited.count
  devices := hlimited.devices.sublist (hfewer.map _)

/-- One more session, where there is room. -/
theorem Limited.insert {before after : Store} {userID owner sessionID : String}
    {item : SessionItem} (hlimited : Limited before userID)
    (hsessions : after.sessions = before.sessions.insert sessionID item)
    (habsent : sessionID ∉ before.sessions)
    (hclock : after.clock = before.clock) (howner : item.userID = some owner)
    (hroom : owner = userID →
      (activeSessions before userID).length < maxSessionsPerUser ∧
        ∀ row ∈ activeSessions before userID,
          row.2.deviceID ≠ item.deviceID) : Limited after userID := by
  have hactive : activeSessions after userID =
      if item.userID == some userID &&
          (format before.clock).before item.expiresAt then
        ⟨sessionID, item⟩ :: activeSessions before userID
      else activeSessions before userID := by
    rw [activeSessions, hsessions, AList.entries_insert_of_notMem habsent,
      hclock, List.filter_cons]
    rfl
  split at hactive
  · next hnew =>
      simp only [howner, Bool.and_eq_true, beq_iff_eq, Option.some.injEq]
        at hnew
      obtain ⟨hcount, hdevices⟩ := hroom hnew.1
      constructor
      · rw [hactive, List.length_cons]
        exact hcount
      · rw [hactive, List.map_cons, List.nodup_cons]
        refine ⟨?_, hlimited.devices⟩
        intro hmem
        obtain ⟨row, hrow, hdevice⟩ := List.mem_map.mp hmem
        exact hdevices row hrow hdevice
  · constructor
    · rw [hactive]
      exact hlimited.count
    · rw [hactive]
      exact hlimited.devices

end Bound

/-- In every state each user has at most five sessions that have not expired,
and at most one of them on each device. -/
theorem sessions_limited (cfg : AuthServiceConfig)
    (hmac : MACDistinguishes cfg) (clock : Time) (pool : Pool)
    (hreach : (machine cfg).Reach listsSeeCommitted (start clock) pool)
    (hcodes : (codeLog pool).Nodup) (userID : String) :
    (activeSessions pool.store userID).length ≤ maxSessionsPerUser ∧
      ((activeSessions pool.store userID).map
        fun row => row.2.deviceID).Nodup := by
  have hlimited : Limited pool.store userID := by
    refine invariant (I := fun pool => (codeLog pool).Nodup →
      Limited pool.store userID) ?_ ?_ ?_ ?_ hreach hcodes
    · intro _
      exact ⟨Nat.zero_le _, List.nodup_nil⟩
    · intro pool id req _ ih _ _ _
      exact ih
    · intro pool id choice call op next response after hpool ih hexec _ hlater
        hcodes
      have hold : (codeLog pool).Nodup :=
        hcodes.sublist (hlater.log_suffix.sublist.filterMap _)
      have hclock := hexec.effect.clock
      change Limited after userID
      cases sessionsChange_of_exec hexec
          (isRefresh_of_reach hpool hexec.lookup) with
      | kept hsessions hentry =>
          apply (ih hold).sublist
          apply activeSessions_sublist _ hclock.ge
          rw [hsessions]
      | deleted sessionID hsessions =>
          apply (ih hold).sublist
          apply activeSessions_sublist _ hclock.ge
          rw [hsessions]
          exact List.kerase_sublist _ _
      | created hreq hcommit =>
          apply (ih hold).insert hcommit.sessions
            (AList.lookup_eq_none.mp hcommit.absent) hclock rfl
          intro howner
          cases hcommit.path with
          | registration base haccepted holder huser hsentinel husers =>
              rw [howner] at huser
              have hnone : activeSessions pool.store userID = [] := by
                apply List.eq_nil_iff_forall_not_mem.mpr
                intro row hrow
                obtain ⟨hrow, hrowUser, -⟩ := mem_activeSessions.mp hrow
                exact AList.lookup_eq_none.mp huser
                  (user_of_session hpool hrow hrowUser)
              rw [hnone]
              exact ⟨by decide, fun row hrow => by cases hrow⟩
          | login login htried huserID haccepted holder husers =>
              subst htried huserID howner
              exact room_of_login hmac hpool hold hexec.lookup hreq haccepted
                holder ⟨_, hcommit.consumable⟩
    · intro pool change after _ ih hadvance _ _ hcodes
      have hframed := framed_of_advance hadvance
      apply (ih hcodes).sublist
      apply activeSessions_sublist _ hframed.clock
      rw [hframed.sessions]
  exact ⟨hlimited.count, hlimited.devices⟩

section Schedules

theorem deployment_macDistinguishes (known : List Claims) :
    MACDistinguishes (deployment known) := by
  intro left right phoneHash expiresAt _ _ hmac
  have htexts : formatOTP left ++ phoneHash ++ expiresAt =
      formatOTP right ++ phoneHash ++ expiresAt :=
    (exchange macs).injective hmac
  have hlists := congrArg String.toList htexts
  simp only [String.toList_append] at hlists
  exact String.toList_inj.mp
    (List.append_cancel_right (List.append_cancel_right hlists))

/-- A user who has registered on one device and logged in on another, with a
list that sees the first session. -/
def twoDevices : Pool :=
  (machine (deployment [])).runTo listsSeeCommitted (start evening)
    (registration ++
      [.env (.replicateUser user), .env (.replicateSession session)] ++
      serve 2 (.requestOTP phone "203.0.113.7") (issuing 654321) ++
      serve 3 (.verifyOTP phone "654321" "device-b")
        (accepting ++ finding user [session] ++ loggingIn sessionB refreshB ++
          minting "88888888-8888-4888-8888-888888888888"))

theorem twoDevices_limited :
    (activeSessions twoDevices.store user).map Sigma.fst =
        [sessionB, session] ∧
      ((activeSessions twoDevices.store user).map
        fun row => row.2.deviceID).Nodup ∧
      (activeSessions twoDevices.store user).length ≤ 5 := by
  have hfacts : (activeSessions twoDevices.store user).map Sigma.fst =
      [sessionB, session] ∧ (codeLog twoDevices).Nodup := by
    decide +kernel
  obtain ⟨hcount, hdevices⟩ := sessions_limited (deployment [])
    (deployment_macDistinguishes []) evening twoDevices
    (Machine.reach_runTo _) hfacts.2 user
  exact ⟨hfacts.1, hdevices, hcount⟩

end Schedules

end MessagingPlatform.SessionLimit
