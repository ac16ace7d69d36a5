import MessagingPlatform.Auth.CodeBinding
import MessagingPlatform.Core.Chronology
import MessagingPlatform.System.Registrations
import MessagingPlatform.System.StoredCodes
import MessagingPlatform.System.TokenSubjects

/-!
# What a token proves

An access token goes back, through any number of refreshes, to a verification
that created its session.  That verification presented the very code that an
earlier request for the same phone had drawn and stored, and sent to nobody but
that phone.  The token names the user who is registered with the phone, or the
key that reserves the phone for that user: `FindByPhone` can return either.
Digests are assumed not to collide on the texts that the run has digested.
-/

namespace MessagingPlatform.Authentication

open Interleaving
open Instants
open Identifiers
open Records
open Primitives
open Tables
open Operations
open Effects
open Freshness
open Chronology
open Stores
open StoreRules
open RequestRules
open VerifyRules
open Service
open ServiceRules
open MessagingPlatform.Runs
open Commits
open StoredCodes
open SessionOrigins
open TokenSubjects
open Registrations
open CodeBinding
open Deployment

section Definitions

/-- The phone that a request names. -/
def namedPhone : Request → Option String
  | .requestOTP phone _ => some phone
  | .verifyOTP phone _ _ => some phone
  | .refreshTokens _ _ _ => none
  | .logout _ => none

/-- The message that an event put under the MAC. -/
def macInput (event : Event) : Option String :=
  match event.entry with
  | ⟨.verifyOTPMAC otpCandidate phoneHash expiresAt _, _⟩ =>
      some (otpMessage otpCandidate phoneHash expiresAt.render)
  | _ => (storedCode event).map fun code =>
      otpMessage code.2.1 code.1 code.2.2.render

/-- No two phones that calls have named have one digest, and no two messages
that they have put under the MAC have one MAC. -/
structure NoCollision (cfg : AuthServiceConfig) (pool : Pool) : Prop where
  phones : Set.InjOn (hashPhone cfg)
    {phone | ∃ id call, pool.calls.lookup id = some call ∧
      namedPhone call.req = some phone}
  messages : Set.InjOn (cfg.hmacSHA256Hex cfg.pepper)
    {message | message ∈ pool.log.filterMap macInput}

/-- A code that a request for the phone has drawn and stored, and has told
nobody but that phone. -/
structure Issuance (cfg : AuthServiceConfig) (pool : Pool)
    (phone code : String) (stored : Event) : Prop where
  stores : ∃ expiresAt,
    storedCode stored = some (hashPhone cfg phone, code, expiresAt)
  requested : ∃ call clientIP, pool.calls.lookup stored.call = some call ∧
    call.req = .requestOTP phone clientIP
  told : ∀ event ∈ pool.log, event.call = stored.call →
    ∀ recipient otp response,
      event.entry = ⟨.sendOTP recipient otp, response⟩ →
      recipient = phone ∧ otp = code

/-- The session was created for the user by a verification of the phone, with
a code that had been issued for that phone before. -/
def Proves (cfg : AuthServiceConfig) (pool : Pool)
    (sessionID userID phone : String) : Prop :=
  ∃ newer committed older, pool.log = newer ++ committed :: older ∧
    createdWith (fun item => item.userID) committed.entry =
      some (sessionID, userID) ∧
    ∃ verification code deviceID,
      pool.calls.lookup committed.call = some verification ∧
      verification.req = .verifyOTP phone code deviceID ∧
      ∃ stored ∈ older, Issuance cfg pool phone code stored

end Definitions

variable {cfg : AuthServiceConfig} {admissible : Pool → Label → Prop}
variable {clock : Time} {pool : Pool}

section Users

/-- Whoever is in the users table stays there. -/
def UsersKept (before after : Store) : Prop :=
  ∀ key item, before.users.lookup key = some item →
    after.users.lookup key = some item

theorem respects_usersKept : Respects (machine cfg) UsersKept where
  refl := fun _ _ _ hitem => hitem
  trans := fun hfirst hsecond key item hitem =>
    hsecond key item (hfirst key item hitem)
  performs := fun hperform _ _ hitem =>
    (effect_of_perform hperform).users_kept hitem
  advances := fun hadvance key item hitem => by
    rw [(framed_of_advance hadvance).users]
    exact hitem

/-- The key that a commit creates a session for has the phone that was
verified. -/
theorem hasPhone_of_commit {event : Event} {call : Call}
    {phone otpCandidate deviceID userID : String}
    {items : List TransactWriteItem} {tried : Attempt} {created : NewSession}
    {item : OTPItem}
    (hreach : (machine cfg).Reach admissible (start clock) pool)
    (hevent : event ∈ pool.log)
    (hcall : pool.calls.lookup event.call = some call)
    (hsuffix : event.entry :: event.older <:+ call.history)
    (hcommit : Commit cfg phone otpCandidate deviceID event.older items
      event.before event.after tried created userID item) :
    HasPhone pool.store userID phone := by
  have holder : event.older ⊆ call.history :=
    ((List.suffix_cons _ _).trans hsuffix).subset
  cases hcommit.path with
  | registration base haccepted hentries huser hsentinel husers =>
      have hdrawn : (⟨.uuidNewString, userID⟩ : Entry) ∈ call.history := by
        apply holder
        simp [hentries, Registration.entries]
      have hapart := Registered.userID_ne_sentinelKey
        (isUUIDText_of_drawn hreach hcall hdrawn) phone
      have hkept := respects_usersKept.since_event hreach hevent
      refine ⟨userAttributes phone (format created.now), ?_, rfl⟩
      apply hkept
      rw [husers, AList.lookup_insert_ne hapart, AList.lookup_insert]
  | login login htried huserID haccepted hentries husers =>
      refine hasPhone_of_listed hreach hcall (holder ?_)
        (List.mem_cons_self (l := login.others))
      rw [hentries, ← huserID]
      simp [Login.evictedEntries, Login.listedEntries, Login.listingEntries,
        foundEntries]

end Users

section Codes

theorem macInput_of_stored {event : Event} {code : Code}
    (hcode : storedCode event = some code) :
    macInput event = some (otpMessage code.2.1 code.1 code.2.2.render) := by
  unfold macInput
  split
  · next hentry =>
      rw [storedCode, hentry] at hcode
      cases hcode
  · rw [hcode]
    rfl

/-- A candidate that passed the comparison is the code that some request has
stored with the record that was read. -/
theorem stored_of_compared {id : ℕ} {call : Call} {tried : Attempt}
    {phoneHash otpCandidate : String}
    (hreach : (machine cfg).Reach admissible (start clock) pool)
    (hmessages : Set.InjOn (cfg.hmacSHA256Hex cfg.pepper)
      {message | message ∈ pool.log.filterMap macInput})
    (hcall : pool.calls.lookup id = some call)
    (hcompared : tried.comparedEntries phoneHash otpCandidate true <:+
      call.history) :
    ∃ stored ∈ pool.log, storedCode stored =
      some (phoneHash, otpCandidate, tried.item.expiresAt) := by
  have hcheck : (⟨.verifyOTPMAC otpCandidate phoneHash tried.item.expiresAt
      tried.item.otpMAC, true⟩ : Entry) ∈ call.history :=
    hcompared.subset List.mem_cons_self
  have hread : (⟨.otpGetItem phoneHash, .ok (some tried.item)⟩ : Entry) ∈
      call.history :=
    hcompared.subset (by simp [Attempt.comparedEntries, Attempt.readEntries])
  obtain ⟨stored, hstored, hversion⟩ :=
    mem_mentioned.mp (version_of_read hreach hcall hread)
  rw [(storedVersion_eq hreach hstored).1] at hversion
  obtain ⟨⟨written, code, expiresAt⟩, hcode, hsame⟩ :=
    Option.map_eq_some_iff.mp hversion
  simp only [codeVersion, versionOf, Prod.mk.injEq] at hsame
  obtain ⟨rfl, rfl, hmac⟩ := hsame
  -- The candidate and the stored code have one MAC, hence are one message.
  have hpassed := (matched_of_compared hreach hcall hcheck).symm
  rw [verifyOTPMAC, beq_iff_eq, ← hmac] at hpassed
  obtain ⟨compared, hlogged, -, hentry⟩ := hreach.event_of_mem hcall hcheck
  have hinput : macInput compared = some (otpMessage otpCandidate written
      tried.item.expiresAt.render) := by
    rw [macInput, hentry]
  have hmessage := hmessages
    (List.mem_filterMap.mpr ⟨compared, hlogged, hinput⟩)
    (List.mem_filterMap.mpr ⟨stored, hstored, macInput_of_stored hcode⟩)
    hpassed
  obtain ⟨rfl, -, -⟩ := otpMessage_inj hmessage rfl rfl
  exact ⟨stored, hstored, hcode⟩

/-- The write behind a stored code, and the number it was drawn as. -/
theorem put_of_storedCode {event : Event} {phoneHash code : String}
    {expiresAt : TimeText}
    (hcode : storedCode event = some (phoneHash, code, expiresAt)) :
    ∃ item now number,
      event.entry = ⟨.otpPutItem phoneHash item now, .ok ()⟩ ∧
      event.older.findSome? drawnNumber = some number ∧
      formatOTP number = code := by
  unfold storedCode at hcode
  split at hcode
  · next written item now hentry =>
      obtain ⟨number, hnumber, heq⟩ := Option.map_eq_some_iff.mp hcode
      rw [Prod.mk.injEq, Prod.mk.injEq] at heq
      exact ⟨item, now, number, heq.1 ▸ hentry, hnumber, heq.2.1⟩
  · cases hcode

theorem findSome_entries (issue : Issue) (counted : History) :
    (issue.entries counted).findSome? drawnNumber = some issue.number :=
  rfl

/-- A request sends the code that it has stored, to its own phone. -/
theorem sent_of_put {phone clientIP recipient otp : String} {issue : Issue}
    {phoneHash : String} {item : OTPItem} {now : TimeText}
    {counted history older : History} {response : _}
    (hcounted : Counted (hashPhone cfg phone) clientIP counted)
    (hput : (⟨.otpPutItem phoneHash item now, .ok ()⟩ : Entry) ::
      issue.entries counted <:+ history)
    (hsend : (⟨.sendOTP recipient otp, response⟩ : Entry) :: older <:+ history)
    (hguard : requestGuard cfg phone clientIP older
      (.sendOTP recipient otp)) :
    recipient = phone ∧ otp = formatOTP issue.number := by
  obtain ⟨hrecipient, sent, counted', rfl, hcounted', rfl⟩ := hguard
  obtain ⟨_, _, -, rfl⟩ := hcounted
  obtain ⟨_, _, -, rfl⟩ := hcounted'
  -- Both the write and what came before the message are the first six
  -- requests of the call.
  have hsame := (List.suffix_of_suffix_length_le hput
    ((List.suffix_cons _ _).trans hsend) (le_refl 6)).eq_of_length rfl
  obtain ⟨-, hsame⟩ := List.cons.inj hsame
  have hnumber := congrArg (List.findSome? drawnNumber) hsame
  rw [findSome_entries, findSome_entries, Option.some.injEq] at hnumber
  rw [hnumber]
  exact ⟨hrecipient, rfl⟩

/-- A code stored under the digest of a phone was requested for that phone and
sent to no other. -/
theorem issuance_of_stored {stored : Event} {phone code : String}
    {expiresAt : TimeText}
    (hreach : (machine cfg).Reach admissible (start clock) pool)
    (hphone : ∀ id call other, pool.calls.lookup id = some call →
      namedPhone call.req = some other →
      hashPhone cfg other = hashPhone cfg phone → other = phone)
    (hstored : stored ∈ pool.log)
    (hcode : storedCode stored = some (hashPhone cfg phone, code, expiresAt)) :
    Issuance cfg pool phone code stored := by
  obtain ⟨call, hcall, hsuffix, hguard⟩ :=
    hreach.event_guard (sat_program cfg) hstored
  obtain ⟨item, now, number, hentry, hdrawn, hnumber⟩ :=
    put_of_storedCode hcode
  obtain ⟨other, clientIP, hreq, hput⟩ : ∃ other clientIP,
      call.req = .requestOTP other clientIP ∧
      requestGuard cfg other clientIP stored.older
        (.otpPutItem (hashPhone cfg phone) item now) := by
    rw [hentry] at hguard
    obtain ⟨other, clientIP, -, -, hreq, -⟩ := issue_of_put hguard
    rw [hreq] at hguard
    exact ⟨other, clientIP, hreq, hguard⟩
  obtain ⟨issue, counted, hhash, -, -, hcounted, holder⟩ := hput
  obtain rfl := hphone _ call other hcall (by rw [hreq]; rfl) hhash.symm
  rw [holder, findSome_entries, Option.some.injEq] at hdrawn
  refine ⟨⟨expiresAt, hcode⟩, ⟨call, clientIP, hcall, hreq⟩, ?_⟩
  intro event hevent hid recipient otp response hsent
  obtain ⟨found, hfound, hsending, hsendGuard⟩ :=
    hreach.event_guard (sat_program cfg) hevent
  rw [hid, hcall, Option.some.injEq] at hfound
  subst hfound
  rw [hsent, hreq] at hsendGuard
  rw [hsent] at hsending
  rw [hentry, holder] at hsuffix
  rw [← hnumber, ← hdrawn]
  exact sent_of_put hcounted hsuffix hsending hsendGuard

end Codes

section Sessions

/-- The verification that created a session. -/
theorem commit_of_created {event : Event} {sessionID userID : String}
    (hreach : (machine cfg).Reach admissible (start clock) pool)
    (hevent : event ∈ pool.log)
    (hcreated : createdWith (fun item => item.userID) event.entry =
      some (sessionID, userID)) :
    ∃ call phone otpCandidate deviceID items tried created item,
      pool.calls.lookup event.call = some call ∧
      event.entry :: event.older <:+ call.history ∧
      call.req = .verifyOTP phone otpCandidate deviceID ∧
      Commit cfg phone otpCandidate deviceID event.older items event.before
        event.after tried created userID item := by
  have hcommits : commits event.entry = true := by
    unfold createdWith at hcreated
    split at hcreated
    · next hentry =>
        rw [hentry]
        rfl
    · cases hcreated
  obtain ⟨call, phone, otpCandidate, deviceID, items, tried, created, user,
    item, hcall, hsuffix, hreq, hentry, hcommit⟩ :=
    commit_of_event hreach hevent hcommits
  have huser : user = userID := by
    simp only [hentry, createdWith, hcommit.proposal.creates, List.head?_cons,
      Option.bind_some] at hcreated
    cases hcreated
    rfl
  subst huser
  exact ⟨call, phone, otpCandidate, deviceID, items, tried, created, item,
    hcall, hsuffix, hreq, hcommit⟩

/-- Every session goes back to a code that was stored for the phone of its
user. -/
theorem proves_of_created {sessionID userID : String}
    (hreach : (machine cfg).Reach admissible (start clock) pool)
    (hcollision : NoCollision cfg pool)
    (hcreated : (sessionID, userID) ∈ createdSessionUsers pool) :
    ∃ phone registered, Proves cfg pool sessionID userID phone ∧
      Registers pool.store phone registered ∧
      (userID = registered ∨ userID = phoneSentinelKey phone) := by
  obtain ⟨committed, hevent, hsession⟩ := mem_mentioned.mp hcreated
  obtain ⟨newer, older, hlog⟩ := List.append_of_mem hevent
  obtain ⟨verification, phone, code, deviceID, items, tried, created, item,
    hcall, hsuffix, hreq, hcommit⟩ := commit_of_created hreach hevent hsession
  obtain ⟨_, hregistered⟩ := exists_registered hreach
  obtain ⟨registered, hregisters⟩ := registers_of_hasPhone hregistered
    (hasPhone_of_commit hreach hevent hcall hsuffix hcommit)
  refine ⟨phone, registered, ?_, hregisters⟩
  -- What the verification compared was stored before it committed.
  obtain ⟨current, call, -, hcurrent, rfl, -, hlookup, hhistory, -⟩ :=
    Reach.at_event hreach hlog
  obtain ⟨base, hbase, haccepted⟩ := hcommit.accepted
  have hsubset : current.log ⊆ pool.log := by
    rw [hlog]
    exact fun _ hmem => List.mem_append_right _ (List.mem_cons_of_mem _ hmem)
  obtain ⟨stored, hstored, hcode⟩ := stored_of_compared hcurrent
    (hcollision.messages.mono (List.filterMap_subset _ hsubset)) hlookup
    (hhistory ▸ haccepted.compared.trans hbase)
  refine ⟨newer, committed, current.log, hlog, hsession, verification, code,
    deviceID, hcall, hreq, stored, hstored, ?_⟩
  refine issuance_of_stored hreach ?_ (hsubset hstored) hcode
  intro id other named hother hnamed hsame
  exact hcollision.phones ⟨id, other, hother, hnamed⟩
    ⟨committed.call, verification, hcall, by rw [hreq]; rfl⟩ hsame

end Sessions

/-- No token without a code: of every access token ever minted, the session was
created with a code that had been stored for a phone and sent to nobody but
that phone.  The token names the user who is registered with the phone and owns
its reservation, or the key of that reservation. -/
theorem token_proves_phone (cfg : AuthServiceConfig) (clock : Time)
    (pool : Pool)
    (hreach : (machine cfg).Reach (whenCalling (PresentsMinted cfg))
      (start clock) pool)
    (hcollision : NoCollision cfg pool) (token : String) (claims : Claims)
    (hminted : (token, claims) ∈ mintedTokens pool) :
    ∃ phone userID, Proves cfg pool claims.sessionID claims.subject phone ∧
      Registers pool.store phone userID ∧
      (claims.subject = userID ∨ claims.subject = phoneSentinelKey phone) :=
  proves_of_created hreach hcollision
    ((namesCreator (fun _ _ => id) hreach).tokens token claims hminted)

/-- After a refresh, the new token still goes back to the code that was stored
for the phone, and names the user who is registered with it. -/
theorem refreshedOnce_proves_phone :
    ∃ token claims, (token, claims) ∈ mintedTokens refreshedOnce ∧
      token ≠ tokenText firstClaims ∧
      Proves (deployment [firstClaims]) refreshedOnce claims.sessionID
        claims.subject phone ∧
      Registers refreshedOnce.store phone claims.subject := by
  have hcollision : NoCollision (deployment [firstClaims]) refreshedOnce :=
    { phones := (exchange digests).injective.injOn
      messages := (exchange macs).injective.injOn }
  have hrun : ∃ minted ∈ mintedTokens refreshedOnce,
      minted.1 ≠ tokenText firstClaims ∧
      isPhoneSentinelKey minted.2.subject = false ∧
      ∃ item ∈ refreshedOnce.store.users.lookup minted.2.subject,
        item.phoneNumber = phone := by decide +kernel
  obtain ⟨⟨token, claims⟩, hminted, hnew, hkey, hphone⟩ := hrun
  obtain ⟨proved, userID, hproves, hregisters, hsubject⟩ := token_proves_phone
    (deployment [firstClaims]) evening refreshedOnce (Machine.reach_runTo _)
    hcollision token claims hminted
  have huser : claims.subject = userID := by
    refine hsubject.resolve_right fun hsentinel => ?_
    rw [hsentinel, isPhoneSentinelKey_phoneSentinelKey] at hkey
    cases hkey
  rw [← huser] at hregisters
  obtain rfl := hasPhone_unique hregisters.1.2 hphone
  exact ⟨token, claims, hminted, hnew, hproves, hregisters⟩

end MessagingPlatform.Authentication
