import MessagingPlatform.System.Commits

/-!
# Stored codes and the records that hold them

A record is told from the other records of its phone by its expiry and its MAC.
The records that calls read, and the records in the table, are versions that
some code request has stored; if no code is stored twice with the same expiry,
no version is.
-/

namespace MessagingPlatform.StoredCodes

open Program
open Interleaving
open Instants
open Records
open Primitives
open Tables
open Operations
open Effects
open Freshness
open Transactions
open RequestRules
open VerifyRules
open Service
open ServiceRules
open MessagingPlatform.Runs
open Commits

/-- What the condition of a transaction sees of a record: its phone, its expiry
and its MAC. -/
abbrev Version := String × TimeText × String

def versionOf (phoneHash : String) (item : OTPItem) : Version :=
  (phoneHash, item.expiresAt, item.otpMAC)

/-- The version that a request stored. -/
def storedVersion : Entry → Option Version
  | ⟨.otpPutItem phoneHash item _, .ok ()⟩ => some (versionOf phoneHash item)
  | _ => none

/-- The number that a request drew for its code. -/
def drawnNumber : Entry → Option ℕ
  | ⟨.randInt _, .ok number⟩ => some number
  | _ => none

/-- A code stored for a phone, with its expiry. -/
abbrev Code := String × String × TimeText

/-- The code that an event stored. -/
def storedCode (event : Event) : Option Code :=
  match event.entry with
  | ⟨.otpPutItem phoneHash item _, .ok ()⟩ =>
      (event.older.findSome? drawnNumber).map fun number =>
        (phoneHash, formatOTP number, item.expiresAt)
  | _ => none

/-- The codes ever stored, newest first. -/
def codeLog (pool : Pool) : List Code := pool.log.filterMap storedCode

/-- The MAC tells the six-digit codes of a phone and an expiry apart. -/
def MACDistinguishes (cfg : AuthServiceConfig) : Prop :=
  ∀ (left right : ℕ) (phoneHash expiresAt : String), left < otpMax →
    right < otpMax →
    computeOTPMAC cfg (formatOTP left) phoneHash expiresAt =
      computeOTPMAC cfg (formatOTP right) phoneHash expiresAt →
    formatOTP left = formatOTP right

/-- The version that a code is stored as. -/
def codeVersion (cfg : AuthServiceConfig) (code : Code) : Version :=
  (code.1, code.2.2, computeOTPMAC cfg code.2.1 code.1 code.2.2.render)

variable {cfg : AuthServiceConfig} {admissible : Pool → Label → Prop}
variable {clock : Time} {pool : Pool}

section Storing

/-- Stored records are made by code requests. -/
theorem issue_of_put {req : Request} {older : History} {item : OTPItem}
    {phoneHash : String} {now : TimeText}
    (hguard : guard cfg req older (.otpPutItem phoneHash item now)) :
    ∃ phone clientIP issue counted, req = .requestOTP phone clientIP ∧
      phoneHash = hashPhone cfg phone ∧ item = Issue.item cfg phone issue ∧
      now = format issue.putAt ∧ older = issue.entries counted := by
  cases req with
  | requestOTP phone clientIP =>
      obtain ⟨issue, counted, hhash, hitem, hnow, -, holder⟩ := hguard
      exact ⟨phone, clientIP, issue, counted, rfl, hhash, hitem, hnow, holder⟩
  | _ => exact hguard.elim

theorem number_lt {id : ℕ} {call : Call} {bound number : ℕ}
    (hreach : (machine cfg).Reach admissible (start clock) pool)
    (hcall : pool.calls.lookup id = some call)
    (hdrawn : (⟨.randInt bound, .ok number⟩ : Entry) ∈ call.history) :
    number < bound := by
  refine forall_entries (F := fun _ entry => ∀ bound number,
    entry = ⟨.randInt bound, .ok number⟩ → number < bound) ?_ ?_ hreach hcall
    _ hdrawn bound number rfl
  · intro pool later entry hentry _
    exact hentry
  · intro pool id choice call op next response after _ hexec _ _ bound number
      heq
    cases heq
    exact hexec.answers

/-- A stored version is the version of the stored code, whose number is in
range. -/
theorem storedVersion_eq {event : Event}
    (hreach : (machine cfg).Reach admissible (start clock) pool)
    (hevent : event ∈ pool.log) :
    storedVersion event.entry = (storedCode event).map (codeVersion cfg) ∧
      ∀ code, storedCode event = some code →
        ∃ number < otpMax, code.2.1 = formatOTP number := by
  obtain ⟨call, hcall, hsuffix, hguard⟩ :=
    hreach.event_guard (sat_program cfg) hevent
  obtain ⟨id, older, ⟨op, response⟩, before, after⟩ := event
  have hother : storedVersion ⟨op, response⟩ = none →
      storedCode ⟨id, older, ⟨op, response⟩, before, after⟩ = none →
      storedVersion ⟨op, response⟩ =
          (storedCode ⟨id, older, ⟨op, response⟩, before, after⟩).map
            (codeVersion cfg) ∧
        ∀ code, storedCode ⟨id, older, ⟨op, response⟩, before, after⟩ =
          some code → ∃ number < otpMax, code.2.1 = formatOTP number := by
    intro hversion hcode
    rw [hversion, hcode]
    exact ⟨rfl, fun code hsome => by cases hsome⟩
  cases op with
  | otpPutItem phoneHash item now =>
      cases response with
      | error cause => exact hother rfl rfl
      | ok done =>
          obtain ⟨phone, clientIP, issue, counted, -, rfl, rfl, -, rfl⟩ :=
            issue_of_put hguard
          refine ⟨rfl, ?_⟩
          intro code hcode
          cases hcode
          refine ⟨issue.number, ?_, rfl⟩
          apply number_lt hreach hcall
          apply hsuffix.subset
          simp [Issue.entries]
  | _ => exact hother rfl rfl

/-- No version is stored twice if no code is. -/
theorem storedVersion_nodup (hmac : MACDistinguishes cfg)
    (hreach : (machine cfg).Reach admissible (start clock) pool)
    (hcodes : (codeLog pool).Nodup) :
    (mentioned storedVersion pool.log).Nodup := by
  have hversions : mentioned storedVersion pool.log =
      (codeLog pool).map (codeVersion cfg) := by
    rw [codeLog, List.map_filterMap]
    exact List.filterMap_congr fun event hevent =>
      (storedVersion_eq hreach hevent).1
  rw [hversions]
  apply List.Nodup.map_on _ hcodes
  intro left hleft right hright heq
  obtain ⟨event, hevent, hstored⟩ := List.mem_filterMap.mp hleft
  obtain ⟨event', hevent', hstored'⟩ := List.mem_filterMap.mp hright
  obtain ⟨number, hnumber, hcode⟩ :=
    (storedVersion_eq hreach hevent).2 left hstored
  obtain ⟨number', hnumber', hcode'⟩ :=
    (storedVersion_eq hreach hevent').2 right hstored'
  obtain ⟨phoneHash, code, expiresAt⟩ := left
  obtain ⟨phoneHash', code', expiresAt'⟩ := right
  simp only [codeVersion, Prod.mk.injEq] at heq
  obtain ⟨rfl, rfl, hsame⟩ := heq
  dsimp only at hcode hcode' hsame
  subst hcode hcode'
  rw [hmac number number' _ _ hnumber hnumber' hsame]

end Storing

section Versions

/-- Records in the table are versions that were stored. -/
theorem version_stored {phoneHash : String} {item : OTPItem}
    (hreach : (machine cfg).Reach admissible (start clock) pool)
    (hitem : pool.store.otpRequests.lookup phoneHash = some item) :
    versionOf phoneHash item ∈ mentioned storedVersion pool.log := by
  refine invariant (I := fun pool => ∀ phoneHash item,
    pool.store.otpRequests.lookup phoneHash = some item →
      versionOf phoneHash item ∈ mentioned storedVersion pool.log)
    ?_ ?_ ?_ ?_ hreach phoneHash item hitem
  · intro phoneHash item hitem
    simp [start, Pool.initial, Store.empty] at hitem
  · intro pool id req _ ih _ _ _
    exact ih
  · intro pool id choice call op next response after _ ih hexec _ _ phoneHash
      item hitem
    have hchange := recordChange_of_effect phoneHash hexec.guarded hexec.effect
    rw [show after.otpRequests.lookup phoneHash = some item from hitem]
      at hchange
    rw [Pool.execCall, mentioned_cons, List.mem_append]
    generalize hbefore : pool.store.otpRequests.lookup phoneHash = earlier
      at hchange
    cases hchange with
    | kept hkeeps => exact Or.inr (ih phoneHash item hbefore)
    | stored item now hreplaceable => exact Or.inl (by simp [storedVersion])
    | incremented old hold | consumed items old hold =>
        exact Or.inr (ih phoneHash old (hbefore.trans hold))
  · intro pool change after _ ih hadvance _ _ phoneHash item hitem
    apply ih phoneHash item
    rw [← (framed_of_advance hadvance).otpRequests]
    exact hitem

/-- Records that calls have read are versions that were stored. -/
theorem version_of_read {id : ℕ} {call : Call} {phoneHash : String}
    {item : OTPItem}
    (hreach : (machine cfg).Reach admissible (start clock) pool)
    (hcall : pool.calls.lookup id = some call)
    (hread : (⟨.otpGetItem phoneHash, .ok (some item)⟩ : Entry) ∈
      call.history) :
    versionOf phoneHash item ∈ mentioned storedVersion pool.log := by
  refine forall_entries (F := fun pool entry => ∀ phoneHash item,
    entry = ⟨.otpGetItem phoneHash, .ok (some item)⟩ →
      versionOf phoneHash item ∈ mentioned storedVersion pool.log) ?_ ?_ hreach
    hcall _ hread phoneHash item rfl
  · intro pool later entry hentry hlater phoneHash item heq
    have hgrows : mentioned storedVersion pool.log <:+
        mentioned storedVersion later.log :=
      hlater.log_suffix.filterMap _
    exact hgrows.subset (hentry phoneHash item heq)
  · intro pool id choice call op next response after hpool hexec _ _ phoneHash
      item heq
    cases heq
    have hitem : some item = pool.store.otpRequests.lookup phoneHash :=
      hexec.answers
    rw [Pool.execCall, mentioned_cons, List.mem_append]
    exact Or.inr (version_stored hpool hitem.symm)

end Versions

end MessagingPlatform.StoredCodes
