import MessagingPlatform.System.RequestCounters
import MessagingPlatform.System.SingleSteps

/-!
# Blocked addresses

`RequestOTP` charges the counter of the phone before it looks at that of the
address.  A request that is refused for its address has by then been counted
for its phone, so an address over its limit uses up the quota of any phone.
Without the refused requests the phones are limited as before only if the
refused requests named them at least a window earlier.
-/

namespace MessagingPlatform.BlockedAddresses

open Program
open Interleaving
open Instants
open Errors
open Records
open Identifiers
open Primitives
open Tables
open Operations
open RequestOutcomes
open Service
open ServiceRules
open MessagingPlatform.Runs
open SingleSteps
open RequestCounters
open Deployment

section Definitions

/-- A call was answered with a domain error. -/
def answeredWith (sentinel : Sentinel) (pool : Pool) (id : ℕ) : Bool :=
  match outcomeAt pool id with
  | some (.requestOTP (.error (.sentinel found))) => found = sentinel
  | _ => false

def isPhoneCounter : RedisKey → Bool
  | .otpReqPhone _ => true
  | _ => false

/-- The charges of phones by code requests. -/
def phoneCharges (log : List Event) : List Charge :=
  (charges log).filter (isPhoneCounter ·.key)

def phoneCounts (log : List Event) : List (Charge × ℕ) :=
  (counted log).filter (isPhoneCounter ·.1.key)

/-- A charge by a call that was not refused for its address. -/
def unblocked (pool : Pool) (charge : Charge) : Bool :=
  !answeredWith .errIPRateLimited pool charge.call

/-- `removed` is a run of the calls of `pool` but for those that were refused
for their address: the others charge the same phones at the same times. -/
def WithoutBlocked (pool removed : Pool) : Prop :=
  phoneCharges removed.log = (phoneCharges pool.log).filter (unblocked pool)

/-- The calls that were refused for their address named each phone at least a
window before any other call did. -/
def BlockedApart (pool : Pool) : Prop :=
  (phoneCharges pool.log).Pairwise (Apart (unblocked pool))

end Definitions

variable {cfg : AuthServiceConfig} {admissible : Pool → Label → Prop}
variable {clock : Time} {pool : Pool}

section Outcomes

/-- What a call that has returned was answered. -/
def decides (cfg : AuthServiceConfig) : Request → History → Outcome → Prop
  | .requestOTP phone clientIP, history, .requestOTP outcome =>
      RequestOutcome cfg phone clientIP history outcome
  | .requestOTP _ _, _, _ => False
  | _, _, .requestOTP _ => False
  | _, _, _ => True

theorem sat_decides (req : Request) :
    Sat anyRequest (decides cfg req) ((machine cfg).program req) [] := by
  cases req with
  | requestOTP phone clientIP =>
      change Sat _ _ (_ >>= _) _
      rw [sat_bind]
      exact sat_outcome
  | _ =>
      refine ((sat_program cfg _).weaken fun _ _ _ => trivial).mono ?_
      intro reached outcome hpost
      cases outcome <;> first | exact hpost.elim | trivial

theorem sentinel_ne_of_invalid {phone : String} {err : GoError}
    (hinvalid : newPhoneNumber phone = .error err) (sentinel : Sentinel) :
    err ≠ .sentinel sentinel := by
  unfold newPhoneNumber at hinvalid
  split_ifs at hinvalid
  · cases hinvalid
    exact fun heq => by cases heq
  · cases hinvalid
    exact fun heq => by cases heq

/-- The last entry of a history is the first request of its call. -/
theorem phoneLimited_iff {phone clientIP : String} {history : History}
    {outcome : Except GoError RequestOTPResult}
    (houtcome : RequestOutcome cfg phone clientIP history outcome) :
    outcome = .error (.sentinel .errPhoneRateLimited) ↔
      ∃ count, otpRequestRateLimitPerPhone < count ∧
        history.getLast? =
          some ⟨phoneEval (hashPhone cfg phone), .ok count⟩ := by
  cases houtcome with
  | invalid err hinvalid =>
      have hother := sentinel_ne_of_invalid hinvalid .errPhoneRateLimited
      simpa using hother
  | unavailable cause err =>
      constructor
      · intro heq
        cases heq
      · rintro ⟨count, -, hlast⟩
        cases hlast
  | phoneLimited count hcount =>
      exact ⟨fun _ => ⟨count, hcount, rfl⟩, fun _ => rfl⟩
  | ipLimited count ipCount hcount hipCount =>
      constructor
      · intro heq
        cases heq
      · rintro ⟨found, hfound, hlast⟩
        cases hlast
        omega
  | passed count response added _ hcount hresponse hother =>
      constructor
      · exact fun heq => (hother _ heq).elim
      · rintro ⟨found, hfound, hlast⟩
        rw [List.getLast?_append] at hlast
        cases hlast
        omega

end Outcomes

section Counts

/-- The charge of a phone in the log. -/
theorem chargeOf_phone {event : Event} {phoneHash : String}
    {windowSeconds count : ℕ}
    (hentry : event.entry =
      ⟨.redisEval (.otpReqPhone phoneHash) windowSeconds, .ok count⟩) :
    chargeOf event =
      some (⟨event.call, .otpReqPhone phoneHash, event.before.clock⟩,
        count) := by
  unfold chargeOf
  rw [hentry]

/-- The count of a phone is the answer to the first request of its call. -/
theorem first_of_phoneCount {charge : Charge} {count : ℕ}
    (hreach : (machine cfg).Reach admissible (start clock) pool)
    (hmem : (charge, count) ∈ phoneCounts pool.log) :
    ∃ call phone clientIP, pool.calls.lookup charge.call = some call ∧
      call.req = .requestOTP phone clientIP ∧
      call.history.getLast? =
        some ⟨phoneEval (hashPhone cfg phone), .ok count⟩ := by
  obtain ⟨hcounted, hphone⟩ := List.mem_filter.mp hmem
  obtain ⟨event, hevent, hcharge⟩ := List.mem_filterMap.mp hcounted
  obtain ⟨call, hcall, hsuffix, hguard⟩ :=
    hreach.event_guard (sat_program cfg) hevent
  unfold chargeOf at hcharge
  split at hcharge
  · next key windowSeconds found hentry =>
      cases hcharge
      rw [hentry] at hsuffix hguard
      obtain ⟨req, history, rest⟩ := call
      cases req with
      | requestOTP phone clientIP =>
          obtain ⟨rfl, ⟨rfl, holder⟩ | rfl⟩ := hguard
          · rw [holder] at hsuffix
            obtain ⟨newer, rfl⟩ := hsuffix
            exact ⟨_, phone, clientIP, hcall, rfl, by simp [phoneEval]⟩
          · cases hphone
      | verifyOTP phone otpCandidate deviceID =>
          obtain ⟨rfl, -⟩ := hguard
          cases hphone
      | refreshTokens | logout => exact hguard.elim
  · cases hcharge

theorem phoneCount_of_first {id : ℕ} {call : Call} {phoneHash : String}
    {count : ℕ} (hreach : (machine cfg).Reach admissible (start clock) pool)
    (hcall : pool.calls.lookup id = some call)
    (hlast : call.history.getLast? = some ⟨phoneEval phoneHash, .ok count⟩) :
    ∃ charge, charge.call = id ∧ (charge, count) ∈ phoneCounts pool.log := by
  have hmem : (⟨phoneEval phoneHash, .ok count⟩ : Entry) ∈ call.history :=
    List.mem_of_getLast? hlast
  obtain ⟨event, hevent, hid, hentry⟩ := hreach.event_of_mem hcall hmem
  have hcounted := List.mem_filterMap.mpr ⟨event, hevent, chargeOf_phone hentry⟩
  exact ⟨_, hid, List.mem_filter.mpr ⟨hcounted, rfl⟩⟩

/-- A call that has returned was refused for its phone exactly if its phone had
been counted beyond the limit. -/
theorem answeredWith_iff {id : ℕ} {outcome : Outcome}
    (hreach : (machine cfg).Reach admissible (start clock) pool)
    (hreturned : outcomeAt pool id = some outcome) :
    answeredWith .errPhoneRateLimited pool id = true ↔
      ∃ count ∈ phoneCounts pool.log,
        count.1.call = id ∧ otpRequestRateLimitPerPhone < count.2 := by
  obtain ⟨call, hcall⟩ : ∃ call, pool.calls.lookup id = some call := by
    rw [outcomeAt] at hreturned
    obtain ⟨call, hcall, -⟩ := Option.bind_eq_some_iff.mp hreturned
    exact ⟨call, hcall⟩
  have hdecides := hreach.post_of_returned sat_decides hcall
    (rest_of_outcomeAt hcall hreturned)
  constructor
  · intro hanswered
    rw [answeredWith, hreturned] at hanswered
    split at hanswered
    · next found heq =>
        cases heq
        obtain ⟨req, history, rest⟩ := call
        cases req with
        | requestOTP phone clientIP =>
            obtain ⟨count, hcount, hlast⟩ := (phoneLimited_iff hdecides).mp
              (by rw [of_decide_eq_true hanswered])
            obtain ⟨charge, hid, hmem⟩ := phoneCount_of_first hreach hcall hlast
            exact ⟨_, hmem, hid, hcount⟩
        | _ => exact hdecides.elim
    · cases hanswered
  · rintro ⟨⟨charge, count⟩, hmem, rfl, hcount⟩
    obtain ⟨found, phone, clientIP, hfound, hreq, hlast⟩ :=
      first_of_phoneCount hreach hmem
    cases hcall.symm.trans hfound
    rw [hreq] at hdecides
    cases outcome with
    | requestOTP answer =>
        have hanswer := (phoneLimited_iff hdecides).mpr ⟨count, hcount, hlast⟩
        rw [answeredWith, hreturned, hanswer]
        rfl
    | _ => exact hdecides.elim

/-- The counts of phones are those of the charges of phones. -/
theorem phoneCounts_eq
    (hreach : (machine cfg).Reach admissible (start clock) pool) :
    phoneCounts pool.log = ranked (phoneCharges pool.log) := by
  have hcharged := charged hreach
  have hapart : (charges pool.log).Pairwise
      (Apart fun charge => isPhoneCounter charge.key) := by
    refine List.pairwise_of_forall ?_
    intro later earlier hkey hearlier hlater
    simp only [hkey, hearlier] at hlater
    cases hlater
  rw [phoneCounts, phoneCharges, hcharged.counts]
  exact (ranked_filter hcharged.sorted hapart).symm

end Counts

section Removal

/-- Without the calls that were refused for their address, the others are
refused for their phone as before, if the refused ones had named their phones at
least a window earlier. -/
theorem phone_limits_without_blocked {removed : Pool} {id : ℕ}
    {outcome outcome' : Outcome}
    (hreach : (machine cfg).Reach anyStep (start clock) pool)
    (hremoved : (machine cfg).Reach anyStep (start clock) removed)
    (hwithout : WithoutBlocked pool removed) (hapart : BlockedApart pool)
    (hreturned : outcomeAt pool id = some outcome)
    (hreturned' : outcomeAt removed id = some outcome')
    (hunblocked : answeredWith .errIPRateLimited pool id = false) :
    answeredWith .errPhoneRateLimited removed id =
      answeredWith .errPhoneRateLimited pool id := by
  have hcounts : phoneCounts removed.log =
      (phoneCounts pool.log).filter (unblocked pool ·.1) := by
    rw [phoneCounts_eq hremoved, hwithout, phoneCounts_eq hreach]
    exact ranked_filter ((charged hreach).sorted.filter _) hapart
  rw [Bool.eq_iff_iff, answeredWith_iff hremoved hreturned',
    answeredWith_iff hreach hreturned, hcounts]
  constructor
  · rintro ⟨count, hmem, hid, hcount⟩
    exact ⟨count, List.mem_of_mem_filter hmem, hid, hcount⟩
  · rintro ⟨count, hmem, hid, hcount⟩
    have hkept : unblocked pool count.1 = true := by
      rw [unblocked, hid, hunblocked]
      rfl
    exact ⟨count, List.mem_filter.mpr ⟨hmem, hkept⟩, hid, hcount⟩

end Removal

section Attack

instance (pool removed : Pool) : Decidable (WithoutBlocked pool removed) :=
  inferInstanceAs (Decidable (_ = _))

instance (keep : Charge → Bool) (later earlier : Charge) :
    Decidable (Apart keep later earlier) :=
  inferInstanceAs (Decidable (_ → _ → _ → _))

instance (pool : Pool) : Decidable (BlockedApart pool) :=
  inferInstanceAs (Decidable (List.Pairwise _ _))

/-- Phones of an attacker, with the SHA-256 of each. -/
def ownPhones : List (String × String) :=
  [("+14155550101",
      "54a97a4595350c4cc6399b01b572a4614416acfec53a508dfa2a36ed3da25817"),
    ("+14155550102",
      "fbf2ac04dbf2d8eff84a0566973d345d67e54885b9ecbd11af20b6e3a114a0c4"),
    ("+14155550103",
      "5ae3f4cfdcbb7eb84e624a2d1a8ee844790ea7ee7c43cfe6051c1d45aa2d1c63"),
    ("+14155550104",
      "1c29ccd085f07f7fbeb8b09b5c3ebcb4822f6b376c3ba200948a6ff8cd46ec3c")]

/-- The HMAC-SHA-256 of the codes of these phones. -/
def ownMacs : List (String × String) :=
  [("000011" ++
      "54a97a4595350c4cc6399b01b572a4614416acfec53a508dfa2a36ed3da25817" ++
      "2023-11-14T22:18:20Z",
      "01234f623aeee55db99f1101fddfdd0fd3afe02df309d3cca77ffba69e11bd7f"),
    ("000012" ++
      "fbf2ac04dbf2d8eff84a0566973d345d67e54885b9ecbd11af20b6e3a114a0c4" ++
      "2023-11-14T22:18:20Z",
      "b625017ce4d42c172c07806fb2c8fa68ef4e9e76c6574db4b6d11b125cb2ca8d"),
    ("000013" ++
      "5ae3f4cfdcbb7eb84e624a2d1a8ee844790ea7ee7c43cfe6051c1d45aa2d1c63" ++
      "2023-11-14T22:18:20Z",
      "e6fcffb1780388ba1fa913bcc4ff376b2ca72f5483236c5003cccddf2d6a78e7"),
    ("000014" ++
      "1c29ccd085f07f7fbeb8b09b5c3ebcb4822f6b376c3ba200948a6ff8cd46ec3c" ++
      "2023-11-14T22:18:20Z",
      "c7c69f627a6c9d179dc99ef0ab73f42592f6df28203f89691fc4367f302c9f57")]

def crowded : AuthServiceConfig :=
  { deployment [] with
    sha256Hex := exchange (digests ++ ownPhones)
    hmacSHA256Hex := fun _ => exchange (macs ++ ownMacs) }

/-- Ten requests from one address for four phones, all within the limits. -/
def exhausting (addresses : ℕ → String) : List Label :=
  (List.range 10).flatMap fun id =>
    serve id
      (.requestOTP ((ownPhones.map Prod.fst).getD (id / 3) "") (addresses id))
      (issuing (11 + id / 3))

/-- Three more requests from that address, for the phone of someone else. -/
def naming : List Label :=
  serve 10 (.requestOTP phone "198.51.100.7") [.ok, .ok] ++
    serve 11 (.requestOTP phone "198.51.100.7") [.ok, .ok] ++
    serve 12 (.requestOTP phone "198.51.100.7") [.ok, .ok]

/-- The request of the owner of that phone. -/
def owning (choices : List Choice) : List Label :=
  serve 13 (.requestOTP phone "203.0.113.7") choices

def run (labels : List Label) : Pool :=
  (machine crowded).runTo withoutFaults (start evening) labels

theorem reach_run (labels : List Label) :
    (machine crowded).Reach withoutFaults (start evening) (run labels) :=
  Machine.reach_runTo _

def attacked : Pool :=
  run (exhausting (fun _ => "198.51.100.7") ++ naming ++ owning [.ok])

def spared : Pool :=
  run (exhausting (fun _ => "198.51.100.7") ++ owning (issuing 123456))

/-- The owner of a phone is refused a code because of requests that were refused
for their address. -/
theorem owner_refused :
    (machine crowded).Reach withoutFaults (start evening) attacked ∧
    (machine crowded).Reach withoutFaults (start evening) spared ∧
    WithoutBlocked attacked spared ∧
    answeredWith .errPhoneRateLimited attacked 13 = true ∧
    (outcomeAt spared 13).isSome = true ∧
    answeredWith .errPhoneRateLimited spared 13 = false :=
  ⟨reach_run _, reach_run _, by decide +kernel⟩

def attackedEarlier : Pool :=
  run (exhausting (fun _ => "198.51.100.7") ++ naming ++
    [.env (.tick (evening + 1200 * second))] ++ owning (issuing 654321))

def sparedEarlier : Pool :=
  run (exhausting (fun _ => "198.51.100.7") ++
    [.env (.tick (evening + 1200 * second))] ++ owning (issuing 654321))

theorem owner_served :
    answeredWith .errIPRateLimited attackedEarlier 12 = true ∧
    answeredWith .errPhoneRateLimited sparedEarlier 13 =
      answeredWith .errPhoneRateLimited attackedEarlier 13 := by
  have hreach := (reach_run _ : (machine crowded).Reach withoutFaults _
    attackedEarlier).mono fun _ _ _ => trivial
  have hremoved := (reach_run _ : (machine crowded).Reach withoutFaults _
    sparedEarlier).mono fun _ _ _ => trivial
  obtain ⟨hblocked, hunblocked, hreturned, hreturned', hwithout, hapart⟩ :
      answeredWith .errIPRateLimited attackedEarlier 12 = true ∧
      answeredWith .errIPRateLimited attackedEarlier 13 = false ∧
      (outcomeAt attackedEarlier 13).isSome = true ∧
      (outcomeAt sparedEarlier 13).isSome = true ∧
      WithoutBlocked attackedEarlier sparedEarlier ∧
      BlockedApart attackedEarlier := by
    decide +kernel
  obtain ⟨outcome, houtcome⟩ := Option.isSome_iff_exists.mp hreturned
  obtain ⟨outcome', houtcome'⟩ := Option.isSome_iff_exists.mp hreturned'
  exact ⟨hblocked, phone_limits_without_blocked hreach hremoved hwithout hapart
    houtcome houtcome' hunblocked⟩

end Attack

end MessagingPlatform.BlockedAddresses
