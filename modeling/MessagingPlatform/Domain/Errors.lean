import Mathlib

/-!
# Error values

Go errors form trees: `fmt.Errorf` with `%w` verbs wraps one or more errors,
`errors.Join` combines several, and the leaves are the domain sentinels or
errors of libraries.  `errors.Is` searches the tree for a sentinel.
-/

namespace MessagingPlatform.Errors

/-- The sentinel errors of `internal/domain/errors.go`. -/
inductive Sentinel where
  | errEmptyID
  | errInvalidID
  | errNotFound
  | errAlreadyExists
  | errUnauthorized
  | errForbidden
  | errNotMember
  | errInvalidInput
  | errMessageTooLarge
  | errInvalidContentType
  | errRateLimited
  | errUnavailable
  | errSlowConsumer
  | errDuplicateMessage
  | errInvalidOTP
  | errOTPExpired
  | errDeviceMismatch
  | errInvalidRefreshToken
  | errRefreshTokenReuse
  | errSessionExpired
  | errSessionRevoked
  | errMaxSessionsExceeded
  | errPhoneRateLimited
  | errIPRateLimited
  | errInvalidPhoneNumber
  | errConfigRequired
  deriving DecidableEq, Repr

/-- An error tree.  `errorf` keeps the format and its other arguments apart
from the wrapped errors. -/
inductive GoError where
  | sentinel (sentinel : Sentinel)
  | plain (text : String)
  | errorf (format : String) (args : List String) (causes : List GoError)
  | join (causes : List GoError)

mutual

/-- `errors.Is(err, target)` for a sentinel target. -/
def errorsIs (target : Sentinel) : GoError → Bool
  | .sentinel sentinel => sentinel == target
  | .plain _ => false
  | .errorf _ _ causes => anyIs target causes
  | .join causes => anyIs target causes

def anyIs (target : Sentinel) : List GoError → Bool
  | [] => false
  | cause :: causes => errorsIs target cause || anyIs target causes

end

end MessagingPlatform.Errors
