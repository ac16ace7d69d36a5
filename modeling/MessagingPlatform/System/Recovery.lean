import MessagingPlatform.System.AnnouncedExpiry

/-!
# Signing in again

Everything that can keep a phone out wears off: counters, lockouts and codes
all end a bounded time after the present, whatever calls have been cut short
and whatever has failed.  From every state of the service it is enough to wait
that long; a code is then sent, and the code is accepted.
-/

namespace MessagingPlatform.Recovery

open Program
open Interleaving
open OneStep
open Instants
open Records
open Identifiers
open Primitives
open Tables
open Operations
open Effects
open Stores
open StoreSteps
open Flows
open FlowSteps
open VerifySteps
open RequestRules
open Service
open ServiceRules
open MessagingPlatform.Runs
open Commits
open StoredCodes
open Registrations
open SingleSteps
open Deployment
open ExpiredCodes
open Verifications
open AnnouncedExpiry

variable {cfg : AuthServiceConfig} {admissible : Pool → Label → Prop}
variable {clock : Time} {pool : Pool}

section Keys

/-- How long a key of Redis lasts. -/
def keyLifetime : RedisKey → Duration
  | .otpReqPhone _ => otpRateLimitWindow
  | .otpReqIP _ => otpRateLimitWindow
  | .otpVerifyPhone _ => otpRateLimitWindow
  | .otpLockoutPhone _ => otpLockoutDuration
  | .revokedJTI _ => revokedJTITTL * second

/-- The entry ends within a lifetime of its key. -/
def EndsWithin (now : Time) (key : RedisKey) (entry : RedisEntry) : Prop :=
  ∃ deadline, entry.deadline = some deadline ∧
    deadline ≤ now + keyLifetime key

/-- Counters are opened for a lifetime of their key. -/
theorem window_of_guard {req : Request} {older : History} {key : RedisKey}
    {windowSeconds : ℕ}
    (hguard : guard cfg req older (.redisEval key windowSeconds)) :
    windowSeconds * second = keyLifetime key := by
  have hwindow : (wholeSeconds otpRateLimitWindow : ℤ) * second =
      otpRateLimitWindow := by decide
  cases req with
  | requestOTP phone clientIP =>
      obtain ⟨rfl, ⟨rfl, -⟩ | rfl⟩ := hguard
      · exact hwindow
      · exact hwindow
  | verifyOTP phone otpCandidate deviceID =>
      obtain ⟨rfl, rfl, -⟩ := hguard
      exact hwindow
  | refreshTokens | logout => exact hguard.elim

/-- Other keys are set for a lifetime. -/
theorem ttl_of_guard {req : Request} {older : History} {key : RedisKey}
    {ttlSeconds : ℕ}
    (hguard : guard cfg req older (.redisSet key ttlSeconds)) :
    ttlSeconds * second = keyLifetime key := by
  cases req with
  | requestOTP phone clientIP => exact hguard.elim
  | verifyOTP phone otpCandidate deviceID =>
      rcases hguard with ⟨rfl, rfl, -⟩ | ⟨_, _, _, _, rfl, rfl, -⟩
      · have hlockout : (wholeSeconds otpLockoutDuration : ℤ) * second =
            otpLockoutDuration := by decide
        exact hlockout
      · rfl
  | refreshTokens accessToken refreshToken deviceID =>
      obtain ⟨_, _, -, rfl, rfl, -⟩ := hguard
      rfl
  | logout accessToken =>
      obtain ⟨_, _, _, -, rfl, rfl, -⟩ := hguard
      rfl

/-- A counter is given a deadline when it is opened, and keeps it. -/
theorem endsWithin_incrementCounter {store : Store} {key : RedisKey}
    {windowSeconds : ℕ} {entry : RedisEntry}
    (hwindow : windowSeconds * second = keyLifetime key)
    (hbefore : ∀ entry, store.redis key = some entry →
      EndsWithin store.clock key entry)
    (hentry : (store.incrementCounter key windowSeconds).2.redis key =
      some entry) : EndsWithin store.clock key entry := by
  have hopened : EndsWithin store.clock key
      ⟨1, some (store.clock + windowSeconds * second)⟩ :=
    ⟨_, rfl, by rw [hwindow]⟩
  cases hlive : store.liveEntry key with
  | none =>
      simp only [Store.incrementCounter, hlive, Function.update_self, if_true,
        Option.some.injEq] at hentry
      exact hentry ▸ hopened
  | some found =>
      have hfound := hbefore found (Option.filter_eq_some_iff.mp hlive).1
      simp only [Store.incrementCounter, hlive, Function.update_self,
        Option.some.injEq] at hentry
      split at hentry
      · next hone =>
          rw [hone] at hentry
          exact hentry ▸ hopened
      · exact hentry ▸ hfound

/-- Whatever has failed, no key of Redis stays for ever. -/
theorem endsWithin_of_reach
    (hreach : (machine cfg).Reach admissible (start clock) pool)
    {key : RedisKey} {entry : RedisEntry}
    (hentry : pool.store.redis key = some entry) :
    EndsWithin pool.store.clock key entry := by
  refine invariant (I := fun pool => ∀ entry,
    pool.store.redis key = some entry →
      EndsWithin pool.store.clock key entry) ?_ ?_ ?_ ?_ hreach entry hentry
  · intro entry hentry
    cases hentry
  · intro pool id req _ ih _ _ _
    exact ih
  · intro pool id choice call op next response after _ ih hexec _ _ entry
      hentry
    change after.redis key = some entry at hentry
    change EndsWithin after.clock key entry
    rw [hexec.effect.clock]
    have hchange := hexec.effect.keyChange key
    rw [hentry] at hchange
    generalize hafter : some entry = changed at hchange
    cases hchange with
    | kept hkeeps => exact ih entry hafter.symm
    | counted windowSeconds =>
        exact endsWithin_incrementCounter (window_of_guard hexec.guarded) ih
          hafter.symm
    | set ttlSeconds =>
        cases hafter
        exact ⟨_, rfl, by rw [ttl_of_guard hexec.guarded]⟩
  · intro pool change after _ ih hadvance _ _ entry hentry
    have hframed := framed_of_advance hadvance
    change after.redis key = some entry at hentry
    rw [hframed.redis] at hentry
    obtain ⟨deadline, hdeadline, hends⟩ := ih entry hentry
    exact ⟨deadline, hdeadline,
      hends.trans (add_le_add_left hframed.clock _)⟩

end Keys

section Records

/-- A code expires within its validity of the present. -/
theorem expiry_of_reach
    (hreach : (machine cfg).Reach admissible (start clock) pool)
    {phoneHash : String} {item : OTPItem} {expiry : Time}
    (hitem : pool.store.otpRequests.lookup phoneHash = some item)
    (hparse : parse item.expiresAt = some expiry) :
    expiry ≤ pool.store.clock + otpValidityDuration := by
  refine invariant (I := fun pool => ∀ item expiry,
    pool.store.otpRequests.lookup phoneHash = some item →
      parse item.expiresAt = some expiry →
        expiry ≤ pool.store.clock + otpValidityDuration) ?_ ?_ ?_ ?_ hreach
    item expiry hitem hparse
  · intro item expiry hitem
    simp [start, Pool.initial, Store.empty] at hitem
  · intro pool id req _ ih _ _ _
    exact ih
  · intro pool id choice call op next response after hpool ih hexec _ _ item
      expiry hitem hparse
    change after.otpRequests.lookup phoneHash = some item at hitem
    change expiry ≤ after.clock + otpValidityDuration
    rw [hexec.effect.clock]
    have hchange := recordChange_of_effect phoneHash hexec.guarded hexec.effect
    rw [hitem] at hchange
    generalize hbefore : pool.store.otpRequests.lookup phoneHash = earlier
      at hchange
    cases hchange with
    | kept hkeeps => exact ih item expiry hbefore hparse
    | stored item now hreplaceable =>
        obtain ⟨phone, clientIP, issue, counted, -, -, rfl, -, hhistory⟩ :=
          issue_of_put hexec.guarded
        have hissued : issue.issuedAt ≤ pool.store.clock := by
          apply read_le_clock hpool hexec.lookup
          simp [hhistory, Issue.entries]
        cases hparse
        calc
          unix (issue.issuedAt + otpValidityDuration) * second ≤
              issue.issuedAt + otpValidityDuration :=
            Int.ediv_mul_le _ second_pos.ne'
          _ ≤ pool.store.clock + otpValidityDuration :=
            add_le_add_left hissued _
    | incremented old hold | consumed items old hold =>
        exact ih old expiry (hbefore.trans hold) hparse
  · intro pool change after _ ih hadvance _ _ item expiry hitem hparse
    have hframed := framed_of_advance hadvance
    change after.otpRequests.lookup phoneHash = some item at hitem
    rw [hframed.otpRequests] at hitem
    exact (ih item expiry hitem hparse).trans
      (add_le_add_left hframed.clock _)

end Records

section Waiting

/-- Nothing happens but that time passes and index replicas catch up. -/
def idle (_ : Pool) : Label → Prop
  | .env _ => True
  | _ => False

/-- The longest that a phone is kept out. -/
def recoveryTime : Duration := max otpRateLimitWindow otpLockoutDuration

variable {first waited : Pool}

theorem framed_of_idle (hidle : (machine cfg).Reach idle first waited) :
    Framed first.store waited.store ∧ waited.calls = first.calls := by
  refine Machine.Reach.invariant (I := fun waited =>
    Framed first.store waited.store ∧ waited.calls = first.calls) ?_ ?_ ?_ ?_
    hidle
  · exact ⟨⟨le_refl _, rfl, rfl, rfl, rfl, rfl⟩, rfl⟩
  · intro pool id req _ _ _ hallowed
    exact hallowed.elim
  · intro pool id choice call op next response after _ _ _ _ _ hallowed
    exact hallowed.elim
  · intro pool change after _ ih hadvance _
    obtain ⟨⟨hclock, hissued, hredis, hrecords, husers, hsessions⟩, hcalls⟩ :=
      ih
    have hframed := framed_of_advance hadvance
    exact ⟨⟨hclock.trans hframed.clock, hframed.issued.trans hissued,
      hframed.redis.trans hredis, hframed.otpRequests.trans hrecords,
      hframed.users.trans husers, hframed.sessions.trans hsessions⟩, hcalls⟩

theorem reach_of_advance {change : Operations.Env} {after : Store}
    (hadvance : advance change pool.store = some after) :
    (machine cfg).Reach idle pool { pool with store := after } := by
  have hstep : (machine cfg).step pool (.env change) =
      some { pool with store := after } := by
    simp only [Machine.step, machine, hadvance]
  exact Machine.Reach.refl.step (show idle pool (.env change) from trivial)
    hstep

/-- A key is gone after its lifetime. -/
theorem liveEntry_of_idle
    (hreach : (machine cfg).Reach admissible (start clock) first)
    (hidle : (machine cfg).Reach idle first waited) {key : RedisKey}
    (hwait : first.store.clock + keyLifetime key ≤ waited.store.clock) :
    waited.store.liveEntry key = none := by
  rw [Store.liveEntry, Option.filter_eq_none_iff]
  intro entry hentry
  rw [(framed_of_idle hidle).1.redis] at hentry
  obtain ⟨deadline, hdeadline, hends⟩ := endsWithin_of_reach hreach hentry
  simp only [RedisEntry.live, hdeadline, decide_eq_true_eq, not_lt]
  exact hends.trans hwait

/-- A code is out of the way after its validity and one second. -/
theorem replaceable_of_idle
    (hreach : (machine cfg).Reach admissible (start clock) first)
    (hidle : (machine cfg).Reach idle first waited) {phoneHash : String}
    (hwait : first.store.clock + (otpValidityDuration + second) ≤
      waited.store.clock) :
    otpReplaceable (format waited.store.clock)
      (waited.store.otpRequests.lookup phoneHash) = true := by
  rw [(framed_of_idle hidle).1.otpRequests]
  cases hitem : first.store.otpRequests.lookup phoneHash with
  | none => rfl
  | some item =>
      cases hstatus : item.status with
      | verified => simp [otpReplaceable, hstatus]
      | pending =>
          rw [otpReplaceable_iff hstatus]
          intro expiry hparse
          have hexpiry := expiry_of_reach hreach hitem hparse
          calc
            expiry + second ≤
                first.store.clock + otpValidityDuration + second :=
              add_le_add_left hexpiry _
            _ ≤ waited.store.clock := by rwa [add_assoc]

/-- The index lists a registered phone once its reservation has reached it. -/
theorem not_unlisted_of_replicated {phone : String} {after : Store}
    (hreach : (machine cfg).Reach admissible (start clock) pool)
    (hadvance : advance (.replicateUser (phoneSentinelKey phone)) pool.store =
      some after) : ¬ Unlisted after phone := by
  cases hadvance
  rintro ⟨hnone, hreserved⟩
  obtain ⟨item, hitem⟩ := Option.ne_none_iff_exists'.mp hreserved
  change pool.store.users.lookup _ = some item at hitem
  obtain ⟨registered, hregistered⟩ := exists_registered hreach
  obtain ⟨params, -, hphone, rfl⟩ :=
    (lookup_sentinelKey_iff hregistered).mp hitem
  apply List.ne_nil_of_mem _ hnone
  · exact phoneSentinelKey phone
  · rw [mem_phoneKeys]
    simp only [hitem, AList.lookup_insert]
    exact congrArg some hphone

/-- One can wait, and meanwhile the index can come to list the phone. -/
theorem exists_waited
    (hreach : (machine cfg).Reach admissible (start clock) first)
    (phone : String) :
    ∃ waited, (machine cfg).Reach idle first waited ∧
      waited.store.clock = first.store.clock + recoveryTime ∧
      ¬ Unlisted waited.store phone := by
  obtain ⟨listed, hlisted⟩ : ∃ listed, advance
      (.replicateUser (phoneSentinelKey phone)) first.store = some listed :=
    ⟨_, rfl⟩
  have hclock : listed.clock = first.store.clock :=
    (clock_of_advance hlisted).resolve_left nofun
  have htick : advance (.tick (first.store.clock + recoveryTime)) listed =
      some { listed with clock := first.store.clock + recoveryTime } := by
    refine if_pos ?_
    rw [hclock]
    exact le_add_of_nonneg_right (by decide)
  have hknown : ¬ Unlisted listed phone :=
    not_unlisted_of_replicated hreach hlisted
  exact ⟨_, (reach_of_advance hlisted).trans (reach_of_advance htick), rfl,
    hknown⟩

end Waiting

section Requests

variable {store : Store} {phone clientIP : String}

/-- The store after the two counters of a request. -/
def requestCounted (store : Store) (phoneHash clientIP : String) : Store :=
  ((store.incrementCounter (.otpReqPhone phoneHash)
    (wholeSeconds otpRateLimitWindow)).2.incrementCounter (.otpReqIP clientIP)
    (wholeSeconds otpRateLimitWindow)).2

/-- The store after a request has put its code. -/
def requested (cfg : AuthServiceConfig) (store : Store)
    (phone clientIP otp : String) : Store :=
  { requestCounted store (hashPhone cfg phone) clientIP with
    otpRequests := store.otpRequests.insert (hashPhone cfg phone)
      (toOTPItem (newOTPRecord cfg otp (hashPhone cfg phone) store.clock)) }

theorem incrementCounter_of_dead {key : RedisKey} {windowSeconds : ℕ}
    (hdead : store.liveEntry key = none) :
    (store.incrementCounter key windowSeconds).1 = 1 := by
  simp [Store.incrementCounter, hdead]

theorem liveEntry_incrementCounter_ne {key counted : RedisKey}
    (hkey : key ≠ counted) (windowSeconds : ℕ) :
    (store.incrementCounter counted windowSeconds).2.liveEntry key =
      store.liveEntry key := by
  rw [Store.liveEntry, Store.redis_incrementCounter_ne store hkey]
  rfl

theorem certain_checkRequestRateLimits {phoneHash : String}
    (hphone : store.liveEntry (.otpReqPhone phoneHash) = none)
    (haddress : store.liveEntry (.otpReqIP clientIP) = none) :
    Certain (steps cfg) (checkRequestRateLimits phoneHash clientIP).run store
      (.ok ()) (requestCounted store phoneHash clientIP) := by
  have hfirst : Certain (steps cfg) (wrapError
      (unavailable "check phone rate limit: %w")
      (checkAndIncrement (.otpReqPhone phoneHash) otpRequestRateLimitPerPhone
        (wholeSeconds otpRateLimitWindow))).run store (.ok true)
      (store.incrementCounter (.otpReqPhone phoneHash)
        (wholeSeconds otpRateLimitWindow)).2 := by
    rw [show true = decide ((store.incrementCounter (.otpReqPhone phoneHash)
        (wholeSeconds otpRateLimitWindow)).1 ≤ otpRequestRateLimitPerPhone) by
      rw [incrementCounter_of_dead hphone]; rfl]
    exact certain_wrapError _ (certain_checkAndIncrement _ _ _)
  have hsecond : Certain (steps cfg) (attempt
      (checkAndIncrement (.otpReqIP clientIP) otpRequestRateLimitPerIP
        (wholeSeconds otpRateLimitWindow))).run
      (store.incrementCounter (.otpReqPhone phoneHash)
        (wholeSeconds otpRateLimitWindow)).2 (.ok (.ok true))
      (requestCounted store phoneHash clientIP) := by
    rw [← liveEntry_incrementCounter_ne (show RedisKey.otpReqIP clientIP ≠
      .otpReqPhone phoneHash by simp) (wholeSeconds otpRateLimitWindow)]
      at haddress
    rw [show true = decide (((store.incrementCounter (.otpReqPhone phoneHash)
        (wholeSeconds otpRateLimitWindow)).2.incrementCounter
          (.otpReqIP clientIP) (wholeSeconds otpRateLimitWindow)).1 ≤
        otpRequestRateLimitPerIP) by
      rw [incrementCounter_of_dead haddress]; rfl]
    exact certain_attempt (certain_checkAndIncrement _ _ _)
  unfold checkRequestRateLimits
  exact hfirst.run_bind_certain (hsecond.run_bind_certain certain_run_pure)

theorem returns_generateOTP :
    Returns cfg generateOTP store fun otp after =>
      (∃ number < otpMax, otp = formatOTP number) ∧ after = store := by
  intro outcome after
  unfold generateOTP
  rw [ends_request_bind]
  constructor
  · rintro ⟨response, middle, ⟨choice, hunfaulted, hperform⟩, hrest⟩
    have heffect := effect_of_unfaulted hunfaulted hperform
    cases choice with
    | number number =>
        simp only [effect] at heffect
        split at heffect
        · next hnumber =>
            cases heffect
            obtain ⟨rfl, rfl⟩ := (certain_run_pure outcome after).mp hrest
            exact ⟨_, rfl, ⟨number, hnumber, rfl⟩, rfl⟩
        · cases heffect
    | _ => cases heffect
  · rintro ⟨otp, rfl, ⟨number, hnumber, rfl⟩, rfl⟩
    refine ⟨.ok number, _, ⟨.number number, trivial, ?_⟩, certain_run_pure.ends⟩
    simp only [perform, effect, hnumber, if_true]

/-- A request that finds no counter and no code in its way stores a code. -/
theorem returns_requestOTP (hvalid : matchesE164 phone = true)
    (hphone : store.liveEntry (.otpReqPhone (hashPhone cfg phone)) = none)
    (haddress : store.liveEntry (.otpReqIP clientIP) = none)
    (hreplaceable : otpReplaceable (format store.clock)
      (store.otpRequests.lookup (hashPhone cfg phone)) = true) :
    Returns cfg (requestOTP cfg phone clientIP) store fun result after =>
      ∃ number < otpMax, after =
          requested cfg store phone clientIP (formatOTP number) ∧
        result = ⟨store.clock + otpValidityDuration, otpRetryAfterSeconds⟩ := by
  unfold requestOTP
  rw [newPhoneNumber_of_matches hvalid]
  dsimp only
  have hstore : ∀ otp, Returns cfg (do
        let now ← request .clockNow
        storeOrRepeat cfg phone otp now)
      (requestCounted store (hashPhone cfg phone) clientIP) fun result after =>
        result = ⟨store.clock + otpValidityDuration, otpRetryAfterSeconds⟩ ∧
          after = requested cfg store phone clientIP otp := by
    intro otp
    have hnow : Certain (steps cfg) (request .clockNow).run
        (requestCounted store (hashPhone cfg phone) clientIP)
        (.ok store.clock)
        (requestCounted store (hashPhone cfg phone) clientIP) :=
      certain_request fun _ => rfl
    refine Returns.of_certain hnow ?_
    refine Returns.of_certain
      (certain_attempt (certain_createOTP hreplaceable)) ?_
    exact Returns.of_certain (certain_request fun _ => rfl) (returns_pure _)
  refine (Returns.of_certain (certain_checkRequestRateLimits hphone haddress)
    (returns_generateOTP.wrapError.bind (fun otp _ result after =>
        result = ⟨store.clock + otpValidityDuration, otpRetryAfterSeconds⟩ ∧
          after = requested cfg store phone clientIP otp) ?_)).congr ?_
  · rintro otp middle ⟨-, rfl⟩
    exact hstore otp
  · intro result after
    constructor
    · rintro ⟨otp, middle, ⟨⟨number, hnumber, rfl⟩, rfl⟩, hresult, hafter⟩
      exact ⟨number, hnumber, hafter, hresult⟩
    · rintro ⟨number, hnumber, hafter, hresult⟩
      exact ⟨_, _, ⟨⟨number, hnumber, rfl⟩, rfl⟩, hresult, hafter⟩

end Requests

section SigningIn

variable {first : Pool} {phone clientIP deviceID : String}

/-- What stands in the way of a phone, gone. -/
structure Free (cfg : AuthServiceConfig) (store : Store)
    (phone clientIP : String) : Prop where
  requests : store.liveEntry (.otpReqPhone (hashPhone cfg phone)) = none
  address : store.liveEntry (.otpReqIP clientIP) = none
  attempts : store.liveEntry (.otpVerifyPhone (hashPhone cfg phone)) = none
  lockout : store.liveEntry (.otpLockoutPhone (hashPhone cfg phone)) = none
  record : otpReplaceable (format store.clock)
    (store.otpRequests.lookup (hashPhone cfg phone)) = true

theorem free_of_idle {waited : Pool}
    (hreach : (machine cfg).Reach admissible (start clock) first)
    (hidle : (machine cfg).Reach idle first waited)
    (hwait : first.store.clock + recoveryTime ≤ waited.store.clock)
    (phone clientIP : String) : Free cfg waited.store phone clientIP := by
  have hlong : ∀ duration, duration ≤ recoveryTime →
      first.store.clock + duration ≤ waited.store.clock :=
    fun duration hle => (add_le_add_right hle _).trans hwait
  exact
    { requests := liveEntry_of_idle hreach hidle (hlong _ (le_max_left _ _))
      address := liveEntry_of_idle hreach hidle (hlong _ (le_max_left _ _))
      attempts := liveEntry_of_idle hreach hidle (hlong _ (le_max_left _ _))
      lockout := liveEntry_of_idle hreach hidle (hlong _ (le_max_right _ _))
      record := replaceable_of_idle hreach hidle (hlong _ (by decide)) }

/-- The verification that follows such a request is within its limits. -/
theorem Free.withinLimits {store : Store}
    (hfree : Free cfg store phone clientIP) (otp : String) :
    WithinLimits (requested cfg store phone clientIP otp)
      (hashPhone cfg phone) := by
  have hkept : ∀ key : RedisKey, key ≠ .otpReqPhone (hashPhone cfg phone) →
      key ≠ .otpReqIP clientIP →
      (requested cfg store phone clientIP otp).liveEntry key =
        store.liveEntry key := by
    intro key hphone haddress
    exact (liveEntry_incrementCounter_ne haddress _).trans
      (liveEntry_incrementCounter_ne hphone _)
  constructor
  · have hdead := (hkept (.otpVerifyPhone (hashPhone cfg phone)) (by simp)
      (by simp)).trans hfree.attempts
    rw [verifyCounted, incrementCounter_of_dead hdead]
    decide
  · exact (hkept _ (by simp) (by simp)).trans hfree.lockout

/-- A request and a verification of the phone, each served as one step without
failures and one right after the other, succeed; they can be served if the
random sources have values left. -/
structure SignsIn (cfg : AuthServiceConfig) (waited : Pool)
    (phone clientIP deviceID : String) : Prop where
  requested : ∀ id history outcome sent,
    Stepped cfg Choice.unfaulted waited id (.requestOTP phone clientIP) history
      (.requestOTP outcome) sent →
    ∃ result otp, outcome = .ok result ∧ sentCodes history = [(phone, otp)] ∧
      ∀ verifyID performed tokens ended,
        Stepped cfg Choice.unfaulted sent verifyID
          (.verifyOTP phone otp deviceID) performed (.verifyOTP tokens)
          ended →
        ∃ granted, tokens = .ok granted
  served : Supplied waited.store → ∃ id history result sent otp,
    Stepped cfg Choice.unfaulted waited id (.requestOTP phone clientIP) history
      (.requestOTP (.ok result)) sent ∧
    sentCodes history = [(phone, otp)] ∧
    ∃ verifyID performed granted ended,
      Stepped cfg Choice.unfaulted sent verifyID
        (.verifyOTP phone otp deviceID) performed (.verifyOTP (.ok granted))
        ended

/-- A code is still good at the instant of its request. -/
theorem le_expiry (now : Time) :
    now ≤ unix (now + otpValidityDuration) * second := by
  have hfloor : ∀ instant : ℤ, instant ≤
      (instant + 300000000000) / 1000000000 * 1000000000 := by
    intro instant
    omega
  exact hfloor now

/-- The code that a request has stored is acceptable at once. -/
theorem Free.acceptable {store : Store} (hfree : Free cfg store phone clientIP)
    (hvalid : matchesE164 phone = true) (hdevice : deviceID ≠ "")
    (otp : String) :
    Acceptable cfg (requested cfg store phone clientIP otp) phone otp deviceID
      (toOTPItem (newOTPRecord cfg otp (hashPhone cfg phone) store.clock)) :=
  ⟨hvalid, hdevice, hfree.withinLimits otp,
    (open_newOTPRecord (AList.lookup_insert _)).mpr ⟨rfl, le_expiry _⟩, rfl⟩

/-- The one code that a successful request has sent is the one it has
stored. -/
theorem sent_of_requested {store : Store} {otp : String} {trace : History}
    {result : RequestOTPResult}
    (hfree : Free cfg store phone clientIP)
    (hruns : Runs (performs cfg Choice.unfaulted)
      (requestOTP cfg phone clientIP).run store trace (.ok result)
      (requested cfg store phone clientIP otp)) :
    ∃ code, sentCodes trace = [(phone, code)] ∧
      requested cfg store phone clientIP otp =
        requested cfg store phone clientIP code := by
  rcases answer_of_requestOTP hruns with ⟨code, hissued⟩ | ⟨item, hrepeated⟩
  · refine ⟨code, hissued.sent, ?_⟩
    exact congrArg (fun records =>
      { requestCounted store (hashPhone cfg phone) clientIP with
        otpRequests := records }) hissued.stored
  · have hactive := hrepeated.active
    rw [← hrepeated.found, hfree.record] at hactive
    cases hactive

/-- The state after a request that found the way free. -/
theorem sent_of_stepped {waited sent : Pool} {id : ℕ} {history : History}
    {outcome : Except Errors.GoError RequestOTPResult}
    (hvalid : matchesE164 phone = true)
    (hfree : Free cfg waited.store phone clientIP)
    (hrequest : Stepped cfg Choice.unfaulted waited id
      (.requestOTP phone clientIP) history (.requestOTP outcome) sent) :
    ∃ result otp, outcome = .ok result ∧ sentCodes history = [(phone, otp)] ∧
      sent.store = requested cfg waited.store phone clientIP otp := by
  have hruns := runs_requestOTP.mp hrequest.runs
  obtain ⟨result, rfl, number, -, hstore, -⟩ :=
    (returns_requestOTP hvalid hfree.requests hfree.address hfree.record
      outcome sent.store).mp ⟨history, hruns⟩
  rw [hstore] at hruns ⊢
  obtain ⟨otp, hsent, hsame⟩ := sent_of_requested hfree hruns
  exact ⟨result, otp, rfl, hsent, hsame⟩

/-- Where the way is free and the index current, the phone signs in. -/
theorem signsIn_of_free {waited : Pool}
    (hreach : (machine cfg).Reach anyStep (start clock) waited)
    (hvalid : matchesE164 phone = true) (hdevice : deviceID ≠ "")
    (hfree : Free cfg waited.store phone clientIP)
    (hlisted : ¬ Unlisted waited.store phone) :
    SignsIn cfg waited phone clientIP deviceID := by
  have hverify : ∀ sent otp,
      (machine cfg).Reach anyStep (start clock) sent →
      sent.store = requested cfg waited.store phone clientIP otp →
      (∀ outcome after, Ends (steps cfg)
          (verifyOTP cfg phone otp deviceID).run sent.store outcome after →
        ∃ granted, outcome = .ok granted) ∧
      (Supplied waited.store → ∃ granted after, Ends (steps cfg)
        (verifyOTP cfg phone otp deviceID).run sent.store (.ok granted)
        after) := by
    intro sent otp hsent hstore
    have hindex : ¬ Unlisted sent.store phone := by
      rw [hstore]
      exact hlisted
    have haccepted := hfree.acceptable hvalid hdevice otp
    rw [← hstore] at haccepted
    obtain ⟨hends, hexists⟩ := loggedIn_of_acceptable haccepted
      (listed_of_reach hsent hindex) (keysIssued_of_reach hsent)
    constructor
    · intro outcome after hverified
      obtain ⟨granted, hgranted, -⟩ := hends outcome after hverified
      exact ⟨granted, hgranted⟩
    · intro hsupplied
      apply hexists
      rw [hstore]
      exact hsupplied
  constructor
  · intro id history outcome sent hrequest
    obtain ⟨result, otp, rfl, hcode, hstore⟩ :=
      sent_of_stepped hvalid hfree hrequest
    refine ⟨result, otp, rfl, hcode, ?_⟩
    intro verifyID performed tokens ended hverified
    exact (hverify sent otp (hrequest.reach hreach) hstore).1 tokens _
      ⟨_, runs_verifyOTP.mp hverified.runs⟩
  · intro hsupplied
    obtain ⟨id, hid⟩ := waited.exists_fresh
    obtain ⟨history, hruns⟩ := (returns_requestOTP hvalid hfree.requests
      hfree.address hfree.record _ _).mpr
        ⟨_, rfl, 0, by decide, rfl, rfl⟩
    obtain ⟨sent, hrequest, -⟩ :=
      exists_stepped hid (runs_requestOTP.mpr hruns)
    obtain ⟨result, otp, hresult, hcode, hstore⟩ :=
      sent_of_stepped hvalid hfree hrequest
    obtain ⟨granted, after, performed, hverified⟩ :=
      (hverify sent otp (hrequest.reach hreach) hstore).2 hsupplied
    obtain ⟨verifyID, hverifyID⟩ := sent.exists_fresh
    obtain ⟨ended, hstepped, -⟩ :=
      exists_stepped hverifyID (runs_verifyOTP.mpr hverified)
    exact ⟨id, history, _, sent, otp, hrequest, hcode, verifyID, performed,
      granted, ended, hstepped⟩

end SigningIn

/-- No phone is kept out for ever.  From every state that the service can get
into, with any calls cut short and any requests failed, it is enough to wait
for `recoveryTime`, during which nothing happens but that the index catches up,
until it lists the phone if that is registered: under the key of the user or of
the reservation.  Then a request is answered and sends a code, and that code is
accepted. -/
theorem phone_signs_in_again (cfg : AuthServiceConfig) (clock : Time)
    (first : Pool) (hreach : (machine cfg).Reach anyStep (start clock) first)
    (phone clientIP deviceID : String) (hvalid : matchesE164 phone = true)
    (hdevice : deviceID ≠ "") :
    (∀ waited, (machine cfg).Reach idle first waited →
      first.store.clock + recoveryTime ≤ waited.store.clock →
      ¬ Unlisted waited.store phone →
        SignsIn cfg waited phone clientIP deviceID) ∧
    ∃ waited, (machine cfg).Reach idle first waited ∧
      waited.store.clock = first.store.clock + recoveryTime ∧
      ¬ Unlisted waited.store phone := by
  refine ⟨?_, exists_waited hreach phone⟩
  intro waited hidle hwait hlisted
  exact signsIn_of_free (hreach.trans (hidle.mono fun _ _ _ => trivial)) hvalid
    hdevice (free_of_idle hreach hidle hwait phone clientIP) hlisted

/-- A phone that has asked four times within a window, and has a code that
nobody has used. -/
def overAsked : Pool :=
  (machine (deployment [])).runTo anyStep (start evening)
    (serve 0 (.requestOTP phone "203.0.113.7") (issuing 123456) ++
      serve 1 (.requestOTP phone "203.0.113.7") (issuing 654321) ++
      serve 2 (.requestOTP phone "203.0.113.7") (issuing 654321) ++
      serve 3 (.requestOTP phone "203.0.113.7") [.ok])

/-- It is refused a code, and signs in a quarter of an hour later. -/
theorem overAsked_signs_in_again :
    otpRequestRateLimitPerPhone <
        liveCount overAsked.store
          (.otpReqPhone (hashPhone (deployment []) phone)) ∧
      ∃ waited, (machine (deployment [])).Reach idle overAsked waited ∧
        waited.store.clock = evening + recoveryTime ∧
        SignsIn (deployment []) waited phone "203.0.113.7" "device-a" := by
  have hrun : otpRequestRateLimitPerPhone <
        liveCount overAsked.store
          (.otpReqPhone (hashPhone (deployment []) phone)) ∧
      overAsked.store.clock = evening := by decide +kernel
  obtain ⟨hsignsIn, waited, hidle, hclock, hlisted⟩ := phone_signs_in_again
    (deployment []) evening overAsked (Machine.reach_runTo _) phone
    "203.0.113.7" "device-a" (by decide +kernel) (by decide)
  refine ⟨hrun.1, waited, hidle, hclock.trans (by rw [hrun.2]), ?_⟩
  exact hsignsIn waited hidle hclock.ge hlisted

end MessagingPlatform.Recovery
