import MessagingPlatform.App.RequestRules
import MessagingPlatform.App.SessionRules
import MessagingPlatform.App.VerifyRules
import MessagingPlatform.System.Service

/-!
# Guards of the running service

The guards of the four flows, joined by request.  Whatever the interleaving,
a call of the service makes only requests that its guard allows.
-/

namespace MessagingPlatform.ServiceRules

open Program
open Interleaving
open Primitives
open Operations
open RequestRules
open SessionRules
open VerifyRules
open Service

variable (cfg : AuthServiceConfig)

def guard : Request → History → Op → Prop
  | .requestOTP phone clientIP => requestGuard cfg phone clientIP
  | .verifyOTP phone otpCandidate deviceID =>
      verifyGuard cfg phone otpCandidate deviceID
  | .refreshTokens accessToken refreshToken deviceID =>
      refreshGuard cfg accessToken refreshToken deviceID
  | .logout accessToken => logoutGuard cfg accessToken

/-- What holds of the history of a call that has returned. -/
def post : Request → History → Outcome → Prop
  | .requestOTP _ _, _, .requestOTP _ => True
  | .verifyOTP _ _ _, reached, .verifyOTP outcome => verifyPost reached outcome
  | .refreshTokens accessToken refreshToken deviceID, reached,
      .refreshTokens outcome =>
      refreshPost cfg accessToken refreshToken deviceID reached outcome
  | .logout accessToken, reached, .logout outcome =>
      logoutPost cfg accessToken reached outcome
  | _, _, _ => False

theorem sat_program (req : Request) :
    Sat (guard cfg req) (post cfg req) ((machine cfg).program req) [] := by
  cases req with
  | requestOTP phone clientIP =>
      change Sat _ _ (_ >>= _) _
      rw [sat_bind]
      exact sat_requestOTP
  | verifyOTP phone otpCandidate deviceID =>
      change Sat _ _ (_ >>= _) _
      rw [sat_bind]
      exact sat_verifyOTP
  | refreshTokens accessToken refreshToken deviceID =>
      change Sat _ _ (_ >>= _) _
      rw [sat_bind]
      exact sat_refreshTokens
  | logout accessToken =>
      change Sat _ _ (_ >>= _) _
      rw [sat_bind]
      exact sat_logout

end MessagingPlatform.ServiceRules
