import MessagingPlatform.System.Commits
import MessagingPlatform.System.Deployment

/-!
# Codes and the sessions they buy

The sessions created through a phone, the consumptions of its record and the
codes stored for it, counted over the log.  One request creates a session and
consumes a record, or does neither.
-/

namespace MessagingPlatform.Consumption

open Program
open Interleaving
open Instants
open Identifiers
open Records
open Primitives
open Tables
open Operations
open Effects
open Transactions
open RequestRules
open VerifyRules
open Service
open ServiceRules
open MessagingPlatform.Runs
open Commits
open Deployment

/-- The status of the record of a phone. -/
def recordStatus (store : Store) (phoneHash : String) : Option OTPStatus :=
  (store.otpRequests.lookup phoneHash).map OTPItem.status

/-- The record of a phone goes from pending to verified. -/
def Consumes (phoneHash : String) (before after : Store) : Prop :=
  recordStatus before phoneHash = some .pending ∧
    recordStatus after phoneHash = some .verified

instance (phoneHash : String) (before after : Store) :
    Decidable (Consumes phoneHash before after) :=
  inferInstanceAs (Decidable (_ ∧ _))

/-- The sessions that are new in a store. -/
def addedSessions (before after : Store) : List String :=
  after.sessions.keys.filter fun sessionID => sessionID ∉ before.sessions

/-- A code stored for a phone. -/
def stores (phoneHash : String) : Entry → Bool
  | ⟨.otpPutItem stored _ _, .ok ()⟩ => stored == phoneHash
  | _ => false

/-- The phone that the call of an event is about. -/
def eventPhone (pool : Pool) (event : Event) : Option String :=
  (pool.calls.lookup event.call).bind fun call => call.req.phone

/-- The sessions ever created through a phone, newest first. -/
def createdThrough (pool : Pool) (phone : String) : List String :=
  pool.log.flatMap fun event =>
    if eventPhone pool event = some phone then
      addedSessions event.before event.after
    else []

/-- How often the record of a phone went from pending to verified. -/
def consumptions (pool : Pool) (phoneHash : String) : ℕ :=
  pool.log.countP fun event => Consumes phoneHash event.before event.after

/-- How many codes were stored for a phone. -/
def storedCodes (pool : Pool) (phoneHash : String) : ℕ :=
  pool.log.countP fun event => stores phoneHash event.entry

section Requests

variable {cfg : AuthServiceConfig} {before after : Store}
variable {phone otpCandidate deviceID phoneHash : String}

theorem recordStatus_insert_ne {other : String} {item : OTPItem}
    (hother : phoneHash ≠ other) :
    recordStatus { before with
      otpRequests := before.otpRequests.insert other item } phoneHash =
        recordStatus before phoneHash := by
  rw [recordStatus, AList.lookup_insert_ne hother]
  rfl

theorem recordStatus_insert (item : OTPItem) :
    recordStatus { before with
      otpRequests := before.otpRequests.insert phoneHash item } phoneHash =
        some item.status := by
  rw [recordStatus, AList.lookup_insert]
  rfl

/-- Stored records are pending. -/
theorem status_of_put {req : Request} {older : History} {item : OTPItem}
    {stored : String} {now : TimeText}
    (hguard : guard cfg req older (.otpPutItem stored item now)) :
    item.status = .pending := by
  cases req with
  | requestOTP phone clientIP =>
      obtain ⟨issue, counted, -, hitem, -⟩ := hguard
      rw [hitem]
      rfl
  | _ => exact hguard.elim

/-- Records are consumed by transactions only. -/
theorem commits_of_consumes {req : Request} {older : History} {op : Op}
    {response : op.Res} (hguard : guard cfg req older op)
    (heffect : Effect before ⟨op, response⟩ after)
    (hconsumes : Consumes phoneHash before after) :
    commits ⟨op, response⟩ = true := by
  obtain ⟨hpending, hverified⟩ := hconsumes
  have hkept : recordStatus after phoneHash = recordStatus before phoneHash →
      False := by
    intro hsame
    rw [hsame, hpending] at hverified
    cases hverified
  cases heffect with
  | committed items hholds => rfl
  | otpPut stored item now hreplaceable =>
      by_cases hhash : phoneHash = stored
      · subst hhash
        rw [recordStatus_insert, status_of_put hguard] at hverified
        cases hverified
      · exact (hkept (recordStatus_insert_ne hhash)).elim
  | otpIncremented stored item hitem =>
      by_cases hhash : phoneHash = stored
      · subst hhash
        apply (hkept _).elim
        rw [recordStatus_insert, recordStatus, hitem]
        rfl
      · exact (hkept (recordStatus_insert_ne hhash)).elim
  | _ => exact (hkept rfl).elim

/-- The requests of calls about a phone add sessions by transactions only. -/
theorem commits_of_added {req : Request} {older : History} {op : Op}
    {response : op.Res} (hguard : guard cfg req older op)
    (hphone : req.phone = some phone)
    (heffect : Effect before ⟨op, response⟩ after)
    (hadded : addedSessions before after ≠ []) :
    commits ⟨op, response⟩ = true := by
  have hkept : (∀ sessionID ∈ after.sessions, sessionID ∈ before.sessions) →
      False := by
    intro hsubset
    apply hadded
    simp only [addedSessions, List.filter_eq_nil_iff, decide_eq_true_eq,
      not_not]
    intro sessionID hkey
    exact hsubset sessionID (AList.mem_keys.mpr hkey)
  cases heffect with
  | committed items hholds => rfl
  | sessionUpdated sessionID update =>
      cases req with
      | requestOTP | verifyOTP => exact hguard.elim
      | refreshTokens | logout => cases hphone
  | sessionDeleted sessionID =>
      apply (hkept _).elim
      intro other hother
      exact (AList.mem_erase.mp hother).2
  | _ => exact (hkept fun _ hmem => hmem).elim

variable {older : History} {items : List TransactWriteItem}
variable {tried : Attempt} {created : NewSession} {userID : String}
variable {item : OTPItem}

/-- A commit adds one session. -/
theorem addedSessions_of_commit
    (hcommit : Commit cfg phone otpCandidate deviceID older items before after
      tried created userID item) :
    addedSessions before after = [created.sessionID] := by
  have habsent : created.sessionID ∉ before.sessions :=
    AList.lookup_eq_none.mp hcommit.absent
  have hkeys : created.sessionID ∉ before.sessions.keys := habsent
  rw [addedSessions, hcommit.sessions, AList.keys_insert,
    List.erase_of_not_mem hkeys,
    List.filter_cons_of_pos (by simpa using habsent)]
  simp only [List.cons.injEq, List.filter_eq_nil_iff, decide_eq_true_eq,
    not_not, true_and]
  intro sessionID hkey
  exact AList.mem_keys.mpr hkey

/-- A commit consumes the record of its phone and no other. -/
theorem consumes_iff_of_commit
    (hcommit : Commit cfg phone otpCandidate deviceID older items before after
      tried created userID item) :
    Consumes phoneHash before after ↔ phoneHash = hashPhone cfg phone := by
  constructor
  · intro hconsumes
    by_contra hother
    have hsame : recordStatus after phoneHash =
        recordStatus before phoneHash := by
      rw [recordStatus, hcommit.otpRequests, AList.lookup_insert_ne hother]
      rfl
    have hverified := hconsumes.2
    rw [hsame, hconsumes.1] at hverified
    cases hverified
  · rintro rfl
    constructor
    · rw [recordStatus, hcommit.consumable.stored, Option.map_some,
        hcommit.consumable.pending]
    · rw [recordStatus, hcommit.otpRequests, AList.lookup_insert]
      rfl

/-- A request that consumes a record is the commit of a verification of its
phone. -/
theorem commit_of_consumes {pool : Pool} {id : ℕ} {call : Call} {op : Op}
    {response : op.Res} (hexec : Exec cfg pool id call op response after)
    (hconsumes : Consumes phoneHash pool.store after) :
    ∃ phone otpCandidate deviceID items tried created userID item,
      call.req = .verifyOTP phone otpCandidate deviceID ∧
      phoneHash = hashPhone cfg phone ∧
      Commit cfg phone otpCandidate deviceID call.history items pool.store
        after tried created userID item := by
  obtain ⟨items, hentry⟩ := eq_of_commits
    (commits_of_consumes hexec.guarded hexec.effect hconsumes)
  cases hentry
  obtain ⟨phone, otpCandidate, deviceID, tried, created, userID, item, hreq,
    hcommit⟩ := commit_of_exec hexec
  exact ⟨phone, otpCandidate, deviceID, items, tried, created, userID, item,
    hreq, (consumes_iff_of_commit hcommit).mp hconsumes, hcommit⟩

/-- A record is made pending by storing a code only. -/
theorem pending_of_effect {req : Request} {older : History} {op : Op}
    {response : op.Res} (hguard : guard cfg req older op)
    (heffect : Effect before ⟨op, response⟩ after)
    (hstores : stores phoneHash ⟨op, response⟩ = false)
    (hpending : recordStatus after phoneHash = some .pending) :
    recordStatus before phoneHash = some .pending := by
  cases heffect with
  | otpPut stored item now hreplaceable =>
      have hhash : phoneHash ≠ stored := by
        rintro rfl
        simp [stores] at hstores
      rwa [recordStatus_insert_ne hhash] at hpending
  | otpIncremented stored item hitem =>
      by_cases hhash : phoneHash = stored
      · subst hhash
        rw [recordStatus_insert] at hpending
        rw [recordStatus, hitem]
        exact hpending
      · rwa [recordStatus_insert_ne hhash] at hpending
  | committed items hholds =>
      obtain ⟨phone, otpCandidate, deviceID, -, hverify⟩ :=
        verifyOTP_of_guard hguard
      obtain ⟨tried, created, userID, item, hcommit⟩ :=
        commit_of_guard hverify hholds
      by_cases hhash : phoneHash = hashPhone cfg phone
      · subst hhash
        rw [recordStatus, hcommit.otpRequests, AList.lookup_insert] at hpending
        cases hpending
      · rw [recordStatus, hcommit.otpRequests,
          AList.lookup_insert_ne hhash] at hpending
        exact hpending
  | _ => exact hpending

/-- One if the record of a phone can be consumed. -/
def consumable (store : Store) (phoneHash : String) : ℕ :=
  if recordStatus store phoneHash = some .pending then 1 else 0

/-- What a request consumes was there before or has just been stored. -/
theorem consumable_of_effect (phoneHash : String) {req : Request}
    {older : History} {op : Op} {response : op.Res}
    (hguard : guard cfg req older op)
    (heffect : Effect before ⟨op, response⟩ after) :
    (if Consumes phoneHash before after then 1 else 0) +
        consumable after phoneHash ≤
      consumable before phoneHash +
        if stores phoneHash ⟨op, response⟩ then 1 else 0 := by
  cases hstores : stores phoneHash ⟨op, response⟩ with
  | true =>
      have hnot : ¬ Consumes phoneHash before after := by
        intro hconsumes
        obtain ⟨items, heq⟩ :=
          eq_of_commits (commits_of_consumes hguard heffect hconsumes)
        rw [heq] at hstores
        cases hstores
      simp only [hnot, if_false, if_true, consumable]
      split <;> omega
  | false =>
      by_cases hconsumes : Consumes phoneHash before after
      · simp [consumable, hconsumes, hconsumes.1, hconsumes.2]
      · by_cases hpending : recordStatus after phoneHash = some .pending
        · have hbefore := pending_of_effect hguard heffect hstores hpending
          simp [consumable, hconsumes, hpending, hbefore]
        · simp [consumable, hconsumes, hpending]

end Requests

section Phones

/-- A verification makes no request unless its phone is well formed. -/
theorem sat_wellFormed (cfg : AuthServiceConfig) (req : Request) :
    Sat (fun _ _ => ∀ phone otpCandidate deviceID,
        req = .verifyOTP phone otpCandidate deviceID →
          matchesE164 phone = true)
      (fun _ _ => True) ((machine cfg).program req) [] := by
  cases req with
  | verifyOTP phone otpCandidate deviceID =>
      by_cases hphone : matchesE164 phone = true
      · refine sat_of_forall (fun _ _ => ?_) (fun _ _ => trivial) _ _
        rintro _ _ _ ⟨⟩
        exact hphone
      · change Sat _ _ (_ >>= _) _
        rw [sat_bind, Flows.verifyOTP]
        split
        · exact trivial
        · next hvalid =>
            exact (hphone (matches_of_newPhoneNumber hvalid)).elim
  | _ => exact sat_of_forall (fun _ _ => nofun) (fun _ _ => trivial) _ _

theorem wellFormed_of_event {cfg : AuthServiceConfig}
    {admissible : Pool → Label → Prop} {clock : Time} {pool : Pool}
    {event : Event} {call : Call} {phone otpCandidate deviceID : String}
    (hreach : (machine cfg).Reach admissible (start clock) pool)
    (hevent : event ∈ pool.log)
    (hcall : pool.calls.lookup event.call = some call)
    (hreq : call.req = .verifyOTP phone otpCandidate deviceID) :
    matchesE164 phone = true := by
  obtain ⟨found, hfound, -, hphone⟩ :=
    hreach.event_guard (sat_wellFormed cfg) hevent
  rw [hcall, Option.some.injEq] at hfound
  subst hfound
  exact hphone phone otpCandidate deviceID hreq

end Phones

section Counting

variable {cfg : AuthServiceConfig} {admissible : Pool → Label → Prop}
variable {clock : Time} {pool : Pool} {phone : String}

theorem length_flatMap_eq_countP {A B : Type} {list : List A}
    {image : A → List B} {counted : A → Bool}
    (hlength : ∀ element ∈ list,
      (image element).length = if counted element then 1 else 0) :
    (list.flatMap image).length = list.countP counted := by
  induction list with
  | nil => rfl
  | cons head tail ih =>
      rw [List.flatMap_cons, List.length_append, List.countP_cons,
        hlength head List.mem_cons_self,
        ih fun element helement => hlength element
          (List.mem_cons_of_mem head helement), Nat.add_comm]

/-- An event through a phone adds a session exactly when it consumes the
record of the phone. -/
theorem added_length
    (honly : ∀ other, matchesE164 other = true →
      hashPhone cfg other = hashPhone cfg phone → other = phone)
    (hreach : (machine cfg).Reach admissible (start clock) pool)
    {event : Event} (hevent : event ∈ pool.log) :
    (if eventPhone pool event = some phone then
        addedSessions event.before event.after else []).length =
      if decide (Consumes (hashPhone cfg phone) event.before event.after) then
        1 else 0 := by
  obtain ⟨call, hcall, hsuffix, hguard⟩ :=
    hreach.event_guard (sat_program cfg) hevent
  obtain ⟨choice, hperform⟩ := hreach.logSound.performed event hevent
  have heffect := effect_of_perform hperform
  have hphone : eventPhone pool event = call.req.phone := by
    simp [eventPhone, hcall]
  cases hcommits : commits event.entry with
  | true =>
      obtain ⟨found, phone', otpCandidate, deviceID, items, tried, created,
        userID, item, hfound, -, hreq, -, hcommit⟩ :=
        commit_of_event hreach hevent hcommits
      rw [hcall, Option.some.injEq] at hfound
      subst found
      rw [hphone, hreq, addedSessions_of_commit hcommit]
      simp only [consumes_iff_of_commit hcommit, Request.phone,
        Option.some.injEq, decide_eq_true_eq]
      by_cases hsame : phone' = phone
      · subst hsame
        simp
      · have hhash : ¬ hashPhone cfg phone = hashPhone cfg phone' :=
          fun heq => hsame (honly phone'
            (wellFormed_of_event hreach hevent hcall hreq) heq.symm)
        simp [hsame, hhash]
  | false =>
      have hnot : ¬ Consumes (hashPhone cfg phone) event.before
          event.after := by
        intro hconsumes
        have htrue := commits_of_consumes hguard heffect hconsumes
        rw [show commits event.entry = true from htrue] at hcommits
        cases hcommits
      rw [hphone]
      by_cases hthrough : call.req.phone = some phone
      · have hnone : addedSessions event.before event.after = [] := by
          by_contra hadded
          have htrue := commits_of_added hguard hthrough heffect hadded
          rw [show commits event.entry = true from htrue] at hcommits
          cases hcommits
        simp [hnot, hnone]
      · simp [hnot, hthrough]

theorem length_createdThrough
    (honly : ∀ other, matchesE164 other = true →
      hashPhone cfg other = hashPhone cfg phone → other = phone)
    (hreach : (machine cfg).Reach admissible (start clock) pool) :
    (createdThrough pool phone).length =
      consumptions pool (hashPhone cfg phone) :=
  length_flatMap_eq_countP fun _ hevent => added_length honly hreach hevent

/-- Every consumption is preceded by a stored code of its own. -/
theorem consumptions_le_storedCodes
    (hreach : (machine cfg).Reach admissible (start clock) pool)
    (phoneHash : String) :
    consumptions pool phoneHash + consumable pool.store phoneHash ≤
      storedCodes pool phoneHash := by
  refine invariant (I := fun pool =>
    consumptions pool phoneHash + consumable pool.store phoneHash ≤
      storedCodes pool phoneHash) ?_ ?_ ?_ ?_ hreach
  · exact le_refl 0
  · intro pool id req _ ih _ _ _
    exact ih
  · intro pool id choice call op next response after _ ih hexec _ _
    have hstep := consumable_of_effect phoneHash hexec.guarded hexec.effect
    simp only [consumptions, storedCodes, Pool.execCall, List.countP_cons,
      decide_eq_true_eq] at ih ⊢
    omega
  · intro pool change after _ ih hadvance _ _
    have hsame : consumable after phoneHash =
        consumable pool.store phoneHash := by
      rw [consumable, recordStatus, (framed_of_advance hadvance).otpRequests]
      rfl
    change _ + consumable after phoneHash ≤ _
    rw [hsame]
    exact ih

/-- The code that a call has committed with has the MAC of the record that it
consumed. -/
theorem mac_of_commit {id : ℕ} {call : Call}
    {otpCandidate deviceID userID : String} {older : History}
    {items : List TransactWriteItem} {before after : Store} {tried : Attempt}
    {created : NewSession} {item : OTPItem}
    (hreach : (machine cfg).Reach admissible (start clock) pool)
    (hcall : pool.calls.lookup id = some call) (holder : older <:+ call.history)
    (hcommit : Commit cfg phone otpCandidate deviceID older items before after
      tried created userID item) :
    computeOTPMAC cfg otpCandidate (hashPhone cfg phone)
      item.expiresAt.render = item.otpMAC := by
  obtain ⟨base, hbase, haccepted⟩ := hcommit.accepted
  have hcompared := holder.subset
    (hbase.subset (haccepted.compared.subset List.mem_cons_self))
  have hmatched := matched_of_compared hreach hcall hcompared
  rw [hcommit.consumable.expiry, hcommit.consumable.mac]
  exact beq_iff_eq.mp hmatched.symm

end Counting

/-- One code, one session.  As many sessions are created through a phone as its
record is consumed, at most as often as codes are stored for it, and whoever
creates one presented a code with the MAC that the record holds when it is
consumed. -/
theorem one_code_one_session (cfg : AuthServiceConfig) (clock : Time)
    (pool : Pool) (hreach : (machine cfg).Reach anyStep (start clock) pool)
    (phone : String)
    (honly : ∀ other, matchesE164 other = true →
      hashPhone cfg other = hashPhone cfg phone → other = phone) :
    (createdThrough pool phone).length =
        consumptions pool (hashPhone cfg phone) ∧
      consumptions pool (hashPhone cfg phone) ≤
        storedCodes pool (hashPhone cfg phone) ∧
      ∀ event ∈ pool.log, eventPhone pool event = some phone →
        addedSessions event.before event.after ≠ [] →
        ∃ call otpCandidate deviceID item,
          pool.calls.lookup event.call = some call ∧
          call.req = .verifyOTP phone otpCandidate deviceID ∧
          event.before.otpRequests.lookup (hashPhone cfg phone) = some item ∧
          item.status = .pending ∧
          event.after.otpRequests.lookup (hashPhone cfg phone) =
            some (consumed item) ∧
          computeOTPMAC cfg otpCandidate (hashPhone cfg phone)
            item.expiresAt.render = item.otpMAC := by
  refine ⟨length_createdThrough honly hreach, ?_, ?_⟩
  · have hcount := consumptions_le_storedCodes hreach (hashPhone cfg phone)
    omega
  · intro event hevent hphone hadded
    obtain ⟨call, hcall, hsuffix, hguard⟩ :=
      hreach.event_guard (sat_program cfg) hevent
    obtain ⟨choice, hperform⟩ := hreach.logSound.performed event hevent
    have hreqPhone : call.req.phone = some phone := by
      simpa [eventPhone, hcall] using hphone
    have hcommits : commits event.entry = true :=
      commits_of_added hguard hreqPhone (effect_of_perform hperform) hadded
    obtain ⟨found, phone', otpCandidate, deviceID, items, tried, created,
      userID, item, hfound, -, hreq, -, hcommit⟩ :=
      commit_of_event hreach hevent hcommits
    rw [hcall, Option.some.injEq] at hfound
    subst found
    rw [hreq] at hreqPhone
    cases hreqPhone
    have holder : event.older <:+ call.history :=
      (List.suffix_cons _ _).trans hsuffix
    refine ⟨call, otpCandidate, deviceID, item, hcall, hreq,
      hcommit.consumable.stored, hcommit.consumable.pending, ?_,
      mac_of_commit hreach hcall holder hcommit⟩
    rw [hcommit.otpRequests, AList.lookup_insert]

/-- A service in which a phone has registered and then logged in with a second
code. -/
def loggedIn : Pool :=
  (machine (deployment [])).runTo anyStep (start evening)
    (registration ++
      [.env (.replicateUser user), .env (.replicateSession session)] ++
      serve 2 (.requestOTP phone "203.0.113.7") (issuing 654321) ++
      serve 3 (.verifyOTP phone "654321" "device-b")
        (accepting ++ finding user [session] ++ loggingIn sessionB refreshB ++
          minting "88888888-8888-4888-8888-888888888888"))

theorem loggedIn_one_code_one_session :
    createdThrough loggedIn phone = [sessionB, session] ∧
      consumptions loggedIn (hashPhone (deployment []) phone) = 2 ∧
      2 ≤ storedCodes loggedIn (hashPhone (deployment []) phone) := by
  have hcreated : createdThrough loggedIn phone = [sessionB, session] := by
    decide +kernel
  obtain ⟨hlength, hstored, -⟩ := one_code_one_session (deployment []) evening
    loggedIn (Machine.reach_runTo _) phone
    fun other _ hsame => (exchange digests).injective hsame
  rw [hcreated] at hlength
  rw [← hlength] at hstored ⊢
  exact ⟨hcreated, rfl, hstored⟩

end MessagingPlatform.Consumption
