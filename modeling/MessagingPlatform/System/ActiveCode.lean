import MessagingPlatform.System.Consumption
import MessagingPlatform.System.StoredCodes

/-!
# The code already texted

A record is replaced only if it is verified or its expiry lies before the time
with which the condition of the write is evaluated.  That time was read from
the clock earlier, so a pending record that has not expired stays, and the code
in the message keeps the MAC that was stored with it.
-/

namespace MessagingPlatform.ActiveCode

open Program
open Interleaving
open Instants
open Records
open Primitives
open Tables
open Operations
open Effects
open Transactions
open RequestRules
open Service
open ServiceRules
open MessagingPlatform.Runs
open Commits
open Consumption
open StoredCodes
open Deployment

variable {cfg : AuthServiceConfig} {admissible : Pool → Label → Prop}
variable {clock : Time} {pool : Pool} {phoneHash : String}

section Kept

/-- The record of a phone is pending and has not expired. -/
def Active (store : Store) (phoneHash : String) (item : OTPItem) : Prop :=
  store.otpRequests.lookup phoneHash = some item ∧ item.status = .pending ∧
    ∃ expiry, parse item.expiresAt = some expiry ∧ store.clock ≤ expiry

/-- A record with the same code, whose attempts may have grown and which may
have been verified. -/
structure SameCode (item later : OTPItem) : Prop where
  attempts : item.attemptCount ≤ later.attemptCount
  rest : later = { item with
    attemptCount := later.attemptCount, status := later.status }

theorem SameCode.refl (item : OTPItem) : SameCode item item :=
  ⟨le_refl _, rfl⟩

/-- The condition of the write sees an expiry that lies ahead as such. -/
theorem not_before_of_le {text : TimeText} {expiry now : Time}
    (hparse : parse text = some expiry) (hnow : now ≤ expiry) :
    text.before (format now) = false := by
  cases text with
  | empty => cases hparse
  | rfc3339 unixSecond =>
      simp only [parse, Option.some.injEq] at hparse
      simp only [TimeText.before, format, decide_eq_false_iff_not, not_lt]
      calc
        now / second ≤ unixSecond * second / second :=
          Int.ediv_le_ediv (by decide) (hparse ▸ hnow)
        _ = unixSecond := Int.mul_ediv_cancel _ (by decide)

/-- An active record is not replaced. -/
theorem not_replaceable {item : OTPItem} {now : Time}
    (hactive : Active pool.store phoneHash item)
    (hnow : now ≤ pool.store.clock) :
    otpReplaceable (format now)
      (pool.store.otpRequests.lookup phoneHash) = false := by
  obtain ⟨hitem, hpending, expiry, hparse, hclock⟩ := hactive
  rw [hitem, otpReplaceable, hpending,
    not_before_of_le hparse (hnow.trans hclock)]
  rfl

/-- The condition of a write is evaluated with an earlier time. -/
theorem putAt_le_clock {id : ℕ} {call : Call} {item : OTPItem}
    {now : TimeText}
    (hreach : (machine cfg).Reach admissible (start clock) pool)
    (hcall : pool.calls.lookup id = some call)
    (hguard : guard cfg call.req call.history
      (.otpPutItem phoneHash item now)) :
    ∃ putAt, now = format putAt ∧ putAt ≤ pool.store.clock := by
  obtain ⟨phone, clientIP, issue, counted, -, -, -, hnow, hhistory⟩ :=
    issue_of_put hguard
  refine ⟨issue.putAt, hnow, read_le_clock hreach hcall ?_⟩
  simp [hhistory, Issue.entries]

theorem stores_of_writesRecord {entry : Entry}
    (hkeeps : writesRecord phoneHash entry = false) :
    stores phoneHash entry = false := by
  unfold stores
  split
  · exact hkeeps
  · rfl

/-- A request keeps an active record and its code, and stores none. -/
theorem kept_of_exec {id : ℕ} {call : Call} {op : Op} {response : op.Res}
    {after : Store} {item : OTPItem}
    (hreach : (machine cfg).Reach admissible (start clock) pool)
    (hexec : Exec cfg pool id call op response after)
    (hactive : Active pool.store phoneHash item) :
    stores phoneHash ⟨op, response⟩ = false ∧
      ∃ later, after.otpRequests.lookup phoneHash = some later ∧
        SameCode item later := by
  have hchange := recordChange_of_effect phoneHash hexec.guarded hexec.effect
  rw [hactive.1] at hchange
  generalize hafter : after.otpRequests.lookup phoneHash = record at hchange
  cases hchange with
  | kept hkeeps =>
      exact ⟨stores_of_writesRecord hkeeps, item, rfl, .refl item⟩
  | stored written now hreplaceable =>
      obtain ⟨putAt, rfl, hpast⟩ :=
        putAt_le_clock hreach hexec.lookup hexec.guarded
      have hnot := not_replaceable hactive hpast
      rw [hactive.1, hreplaceable] at hnot
      cases hnot
  | incremented old hold =>
      cases hold
      exact ⟨rfl, _, rfl, Nat.le_succ _, rfl⟩
  | consumed items old hold hpending =>
      cases hold
      exact ⟨rfl, _, rfl, le_refl _, rfl⟩

/-- No step touches an active record except to count an attempt on it or to
verify it. -/
theorem kept_of_step {label : Label} {next : Pool} {item : OTPItem}
    (hreach : (machine cfg).Reach admissible (start clock) pool)
    (hstep : (machine cfg).step pool label = some next)
    (hactive : Active pool.store phoneHash item) :
    storedCodes next phoneHash = storedCodes pool phoneHash ∧
      ∃ later, next.store.otpRequests.lookup phoneHash = some later ∧
        SameCode item later := by
  rcases step_exec hreach hstep with ⟨id, req, -, -, rfl⟩ |
    ⟨id, choice, call, op, continueWith, response, after, -, hexec, rfl⟩ |
    ⟨change, after, -, hadvance, rfl⟩
  · exact ⟨rfl, item, hactive.1, .refl item⟩
  · obtain ⟨hstores, hlater⟩ := kept_of_exec hreach hexec hactive
    refine ⟨?_, hlater⟩
    rw [storedCodes, storedCodes, Pool.execCall, List.countP_cons, hstores]
    rfl
  · refine ⟨rfl, item, ?_, .refl item⟩
    rw [(framed_of_advance hadvance).otpRequests]
    exact hactive.1

end Kept

section Texted

/-- Messages are sent by code requests, after their record was stored. -/
theorem issue_of_send {req : Request} {older : History} {recipient otp : String}
    (hguard : guard cfg req older (.sendOTP recipient otp)) :
    ∃ clientIP issue counted, req = .requestOTP recipient clientIP ∧
      otp = formatOTP issue.number ∧
      Counted (hashPhone cfg recipient) clientIP counted ∧
      older = ⟨.otpPutItem (hashPhone cfg recipient)
        (Issue.item cfg recipient issue) (format issue.putAt), .ok ()⟩ ::
          issue.entries counted := by
  cases req with
  | requestOTP phone clientIP =>
      obtain ⟨rfl, issue, counted, hotp, hcounted, holder⟩ := hguard
      exact ⟨clientIP, issue, counted, rfl, hotp, hcounted, holder⟩
  | _ => exact hguard.elim

theorem length_of_counted {clientIP : String} {counted : History}
    (hcounted : Counted phoneHash clientIP counted) : counted.length = 2 := by
  obtain ⟨count, response, -, rfl⟩ := hcounted
  rfl

/-- A code request writes at most one record. -/
theorem put_unique {phone clientIP : String} {history : History}
    {item : OTPItem} {now : TimeText} {issue : Issue} {counted : History}
    {response : Except DynamoError Unit}
    (hconforms : Conforms (requestGuard cfg phone clientIP) history)
    (hcounted : Counted (hashPhone cfg phone) clientIP counted)
    (hput : ⟨.otpPutItem (hashPhone cfg phone) (Issue.item cfg phone issue)
      (format issue.putAt), response⟩ :: issue.entries counted <:+ history)
    {other : Except DynamoError Unit}
    (hentry : (⟨.otpPutItem phoneHash item now, other⟩ : Entry) ∈ history) :
    phoneHash = hashPhone cfg phone ∧ item = Issue.item cfg phone issue := by
  obtain ⟨older, hsuffix, hguard⟩ := hconforms.guard_of_mem hentry
  obtain ⟨issue', counted', rfl, rfl, rfl, hcounted', rfl⟩ := hguard
  -- Both writes are the sixth request of the call.
  have hlength : (issue'.entries counted').length =
      (issue.entries counted).length := by
    simp [Issue.entries, length_of_counted hcounted,
      length_of_counted hcounted']
  have hsame := (List.suffix_of_suffix_length_le hsuffix hput
    (by simp [hlength])).eq_of_length (by simp [hlength])
  have hhead := (List.cons.inj hsame).1
  simp only [Sigma.mk.injEq, Op.otpPutItem.injEq, true_and] at hhead
  exact ⟨rfl, hhead.1.1⟩

/-- A texted code has the MAC of the record that its call stored. -/
theorem mac_of_send {event : Event} {recipient otp : String}
    {response : Except Errors.GoError Unit}
    (hreach : (machine cfg).Reach admissible (start clock) pool)
    (hevent : event ∈ pool.log)
    (hsent : event.entry = ⟨.sendOTP recipient otp, response⟩) :
    (∃ stored ∈ pool.log, stored.call = event.call ∧
      stores (hashPhone cfg recipient) stored.entry = true) ∧
    ∀ stored ∈ pool.log, stored.call = event.call →
      ∀ phoneHash item now,
        stored.entry = ⟨.otpPutItem phoneHash item now, .ok ()⟩ →
          phoneHash = hashPhone cfg recipient ∧
          item.otpMAC = computeOTPMAC cfg otp phoneHash
            item.expiresAt.render := by
  obtain ⟨call, hcall, hsuffix, hguard⟩ :=
    hreach.event_guard (sat_program cfg) hevent
  rw [hsent] at hguard
  obtain ⟨clientIP, issue, counted, hreq, rfl, hcounted, holder⟩ :=
    issue_of_send hguard
  have hput := (List.suffix_cons _ _).trans hsuffix
  rw [holder] at hput
  constructor
  · obtain ⟨stored, hstored, hid, hentry⟩ :=
      hreach.event_of_mem hcall (hput.subset List.mem_cons_self)
    exact ⟨stored, hstored, hid, by simp [hentry, stores]⟩
  · intro stored hstored hid phoneHash item now hentry
    obtain ⟨found, hfound, hpart⟩ := hreach.logSound.recorded stored hstored
    rw [hid, hcall, Option.some.injEq] at hfound
    subst found
    have hmem := hpart.subset List.mem_cons_self
    rw [hentry] at hmem
    have hconforms := (hreach.wellGuarded (sat_program cfg) hcall).1
    rw [hreq] at hconforms
    obtain ⟨rfl, rfl⟩ := put_unique hconforms hcounted hput hmem
    exact ⟨rfl, rfl⟩

end Texted

/-- The code already texted keeps working: no step replaces, removes or alters
a pending record that has not expired, except that attempts are counted and
that it is verified, and every code handed to the sender has, with the phone
hash and the expiry that its call stored, the MAC that its call stored. -/
theorem texted_code_keeps_working (cfg : AuthServiceConfig) (clock : Time)
    (pool : Pool) (hreach : (machine cfg).Reach anyStep (start clock) pool) :
    (∀ label next phoneHash item, (machine cfg).step pool label = some next →
      Active pool.store phoneHash item →
        storedCodes next phoneHash = storedCodes pool phoneHash ∧
          ∃ later, next.store.otpRequests.lookup phoneHash = some later ∧
            SameCode item later) ∧
    ∀ event ∈ pool.log, ∀ recipient otp response,
      event.entry = ⟨.sendOTP recipient otp, response⟩ →
        (∃ stored ∈ pool.log, stored.call = event.call ∧
          stores (hashPhone cfg recipient) stored.entry = true) ∧
        ∀ stored ∈ pool.log, stored.call = event.call →
          ∀ phoneHash item now,
            stored.entry = ⟨.otpPutItem phoneHash item now, .ok ()⟩ →
              phoneHash = hashPhone cfg recipient ∧
              item.otpMAC = computeOTPMAC cfg otp phoneHash
                item.expiresAt.render := by
  constructor
  · intro label next phoneHash item hstep hactive
    exact kept_of_step hreach hstep hactive
  · intro event hevent recipient otp response hsent
    exact mac_of_send hreach hevent hsent

/-- A service that has texted a code, with a second request for the phone about
to write its record. -/
def requestedTwice : Pool :=
  (machine (deployment [])).runTo anyStep (start evening)
    (serve 0 (.requestOTP phone "203.0.113.7") (issuing 123456) ++
      serve 1 (.requestOTP phone "203.0.113.7")
        [.ok, .ok, .number 654321, .ok, .ok])

/-- The second write fails, and the first code stays. -/
theorem requestedTwice_keeps_code :
    ∃ next item, (machine (deployment [])).step requestedTwice (.exec 1 .ok) =
        some next ∧
      Active requestedTwice.store phoneDigest item ∧
      item.otpMAC = computeOTPMAC (deployment []) "123456" phoneDigest
        item.expiresAt.render ∧
      ∃ later, next.store.otpRequests.lookup phoneDigest = some later ∧
        SameCode item later := by
  have hrun : (∃ item ∈ requestedTwice.store.otpRequests.lookup phoneDigest,
      item.status = .pending ∧
      (∃ expiry ∈ parse item.expiresAt,
        requestedTwice.store.clock ≤ expiry) ∧
      item.otpMAC = computeOTPMAC (deployment []) "123456" phoneDigest
        item.expiresAt.render) ∧
      ((machine (deployment [])).step requestedTwice
        (.exec 1 .ok)).isSome = true := by decide +kernel
  obtain ⟨⟨item, hitem, hpending, ⟨expiry, hparse, hclock⟩, hmac⟩, hsome⟩ :=
    hrun
  obtain ⟨next, hstep⟩ := Option.isSome_iff_exists.mp hsome
  have hactive : Active requestedTwice.store phoneDigest item :=
    ⟨hitem, hpending, expiry, hparse, hclock⟩
  exact ⟨next, item, hstep, hactive, hmac,
    ((texted_code_keeps_working (deployment []) evening requestedTwice
      (Machine.reach_runTo _)).1 _ next phoneDigest item hstep hactive).2⟩

end MessagingPlatform.ActiveCode
