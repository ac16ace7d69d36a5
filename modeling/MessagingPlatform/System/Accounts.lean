import Mathlib

/-!
# What the tables are for

A `Ledger` is the service without its calls: keys that hold phones, one code
for each phone, and sessions with their owners, changed by five actions that
each happen at once.  A code opens a session for a holder of its phone and is
then used up; a phone is registered to one key, together with its reservation.
-/

namespace MessagingPlatform.Accounts

variable {Phone Digest Key Session Code Time : Type}

/-- Who holds which phone, the code of each phone with whether it is used up,
and the sessions, each with its owner if it still has one. -/
structure Ledger (Phone Digest Key Session Code Time : Type) where
  now : Time
  phone : Key → Option Phone
  code : Digest → Option (Code × Bool)
  owner : Session → Option (Option Key)

inductive Action (Phone Digest Key Session Code : Type) where
  | issue (digest : Digest) (code : Code)
  | register (phone : Phone) (code : Code) (key : Key) (session : Session)
  | login (digest : Digest) (code : Code) (key : Key) (session : Session)
  | rotate (session : Session)
  | close (session : Session)
  deriving DecidableEq

/-- The digest of a phone, the key that reserves it, and the instant at which a
code expires. -/
structure Rules (Phone Digest Key Code Time : Type) where
  digest : Phone → Digest
  reserve : Phone → Key
  expires : Code → Option Time

variable [DecidableEq Digest] [DecidableEq Key] [DecidableEq Session]

section Enrolment

variable {held : Key → Option Phone} {key reserve other : Key}
variable {phone found : Phone}

/-- The holders once `key` and the reservation have the phone as well. -/
def enrol (held : Key → Option Phone) (key reserve : Key) (phone : Phone) :
    Key → Option Phone :=
  Function.update (Function.update held key (some phone)) reserve (some phone)

theorem enrol_reserve : enrol held key reserve phone reserve = some phone :=
  Function.update_self _ _ _

theorem enrol_key : enrol held key reserve phone key = some phone := by
  by_cases hsame : key = reserve
  · rw [hsame]
    exact enrol_reserve
  · rw [enrol, Function.update_of_ne hsame, Function.update_self]

theorem enrol_of_ne (hkey : other ≠ key) (hreserve : other ≠ reserve) :
    enrol held key reserve phone other = held other := by
  rw [enrol, Function.update_of_ne hreserve, Function.update_of_ne hkey]

/-- Enrolment leaves those who hold a phone alone. -/
theorem enrol_of_held (hkey : held key = none)
    (hreserve : held reserve = none) (hheld : held other = some found) :
    enrol held key reserve phone other = some found := by
  rw [enrol_of_ne, hheld]
  · rintro rfl
    rw [hkey] at hheld
    cases hheld
  · rintro rfl
    rw [hreserve] at hheld
    cases hheld

end Enrolment

variable [LinearOrder Time]

/-- What an action does, and when it may happen.  A rotation of a session that
is gone leaves one without an owner. -/
inductive Step (rules : Rules Phone Digest Key Code Time)
    (before : Ledger Phone Digest Key Session Code Time) :
    Action Phone Digest Key Session Code →
      Ledger Phone Digest Key Session Code Time → Prop
  | issue (digest : Digest) (code : Code)
      (hfree : ∀ old, before.code digest = some (old, false) →
        ∀ instant, rules.expires old = some instant → instant < before.now) :
      Step rules before (.issue digest code)
        { before with
          code := Function.update before.code digest (some (code, false)) }
  | register (phone : Phone) (code : Code) (key : Key) (session : Session)
      (hcode : before.code (rules.digest phone) = some (code, false))
      (hkey : before.phone key = none)
      (hreserved : before.phone (rules.reserve phone) = none)
      (hsession : before.owner session = none) :
      Step rules before (.register phone code key session)
        { before with
          phone := enrol before.phone key (rules.reserve phone) phone
          code := Function.update before.code (rules.digest phone)
            (some (code, true))
          owner := Function.update before.owner session (some (some key)) }
  | login (phone : Phone) (code : Code) (key : Key) (session : Session)
      (hcode : before.code (rules.digest phone) = some (code, false))
      (hkey : before.phone key = some phone)
      (hsession : before.owner session = none) :
      Step rules before (.login (rules.digest phone) code key session)
        { before with
          code := Function.update before.code (rules.digest phone)
            (some (code, true))
          owner := Function.update before.owner session (some (some key)) }
  | rotate (session : Session) :
      Step rules before (.rotate session)
        { before with
          owner := Function.update before.owner session
            (some (before.owner session).join) }
  | close (session : Session) :
      Step rules before (.close session)
        { before with owner := Function.update before.owner session none }

/-- Actions one after another, newest first, while time passes. -/
inductive Run (rules : Rules Phone Digest Key Code Time)
    (first : Ledger Phone Digest Key Session Code Time) :
    List (Action Phone Digest Key Session Code) →
      Ledger Phone Digest Key Session Code Time → Prop
  | start : Run rules first [] first
  | act {actions : List (Action Phone Digest Key Session Code)}
      {before after : Ledger Phone Digest Key Session Code Time}
      {action : Action Phone Digest Key Session Code}
      (hrun : Run rules first actions before)
      (hstep : Step rules before action after) :
      Run rules first (action :: actions) after
  | pass {actions : List (Action Phone Digest Key Session Code)}
      {before : Ledger Phone Digest Key Session Code Time} {later : Time}
      (hrun : Run rules first actions before) (hlater : before.now ≤ later) :
      Run rules first actions { before with now := later }

section Sound

variable {rules : Rules Phone Digest Key Code Time}
variable {first before after : Ledger Phone Digest Key Session Code Time}
variable {action : Action Phone Digest Key Session Code}
variable {actions : List (Action Phone Digest Key Session Code)}

/-- Owners hold phones. -/
def Sound (ledger : Ledger Phone Digest Key Session Code Time) : Prop :=
  ∀ session key, ledger.owner session = some (some key) →
    ∃ phone, ledger.phone key = some phone

/-- An entry of a session after one session was written. -/
theorem owner_of_update {Owner : Type} {owner : Session → Option Owner}
    {session other : Session} {written : Option Owner} {found : Owner}
    (howner : Function.update owner session written other = some found) :
    written = some found ∨ owner other = some found := by
  by_cases hsession : other = session
  · subst hsession
    rw [Function.update_self] at howner
    exact Or.inl howner
  · rw [Function.update_of_ne hsession] at howner
    exact Or.inr howner

theorem Step.sound (hstep : Step rules before action after)
    (hsound : Sound before) : Sound after := by
  cases hstep with
  | issue digest code hfree => exact hsound
  | register phone code key session hcode hkey hreserved hsession =>
      intro other owner howner
      rcases owner_of_update howner with hnew | hold
      · rw [Option.some.injEq, Option.some.injEq] at hnew
        exact ⟨phone, hnew ▸ enrol_key⟩
      · obtain ⟨found, hfound⟩ := hsound other owner hold
        exact ⟨found, enrol_of_held hkey hreserved hfound⟩
  | login phone code key session hcode hkey hsession =>
      intro other owner howner
      rcases owner_of_update howner with hnew | hold
      · rw [Option.some.injEq, Option.some.injEq] at hnew
        exact ⟨phone, hnew ▸ hkey⟩
      · exact hsound other owner hold
  | rotate session =>
      intro other owner howner
      rcases owner_of_update howner with hnew | hold
      · rw [Option.some.injEq, Option.join_eq_some_iff] at hnew
        exact hsound session owner hnew
      · exact hsound other owner hold
  | close session =>
      intro other owner howner
      rcases owner_of_update howner with hnew | hold
      · cases hnew
      · exact hsound other owner hold

theorem Run.sound (hrun : Run rules first actions after)
    (hfirst : Sound first) : Sound after := by
  induction hrun with
  | start => exact hfirst
  | act _ hstep ih => exact hstep.sound ih
  | pass _ _ ih => exact ih

end Sound

end MessagingPlatform.Accounts
