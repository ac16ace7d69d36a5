import MessagingPlatform.Domain.Timestamps
import MessagingPlatform.System.Deployment

/-!
# What the MAC of a code binds

The MAC is taken over the code, the hash of the phone and the expiry, one
after another and without separators.  The hash and the expiry have fixed
lengths, so that the message has only one division into the three.
-/

namespace MessagingPlatform.CodeBinding

open Instants
open Timestamps
open Primitives
open Deployment

/-- The message under the MAC. -/
def otpMessage (otp phoneHash expiresAt : String) : String :=
  otp ++ phoneHash ++ expiresAt

/-- The length of a SHA-256 digest in hexadecimal. -/
def digestLength : ℕ := 64

/-- The last two parts of a message have fixed lengths. -/
theorem otpMessage_inj {leftOTP rightOTP leftHash rightHash leftExpiry
      rightExpiry : String}
    (heq : otpMessage leftOTP leftHash leftExpiry =
      otpMessage rightOTP rightHash rightExpiry)
    (hhash : leftHash.length = rightHash.length)
    (hexpiry : leftExpiry.length = rightExpiry.length) :
    leftOTP = rightOTP ∧ leftHash = rightHash ∧ leftExpiry = rightExpiry := by
  obtain ⟨hfront, hlast⟩ := append_field_inj heq hexpiry
  obtain ⟨hotp, hmiddle⟩ := append_field_inj hfront hhash
  exact ⟨hotp, hmiddle, hlast⟩

section Binding

variable {cfg : AuthServiceConfig} {candidate otp phone phone' : String}
variable {expiry expiry' : ℤ}

/-- A candidate passes exactly with the code, the phone and the expiry that the
MAC was computed for.  The two phones are assumed not to collide under
SHA-256, nor the two messages under the HMAC. -/
theorem verifyOTPMAC_iff
    (hdigest : (hashPhone cfg phone).length = digestLength)
    (hdigest' : (hashPhone cfg phone').length = digestLength)
    (hphones : hashPhone cfg phone = hashPhone cfg phone' → phone = phone')
    (hmessages :
      let message := otpMessage candidate (hashPhone cfg phone)
        (TimeText.rfc3339 expiry).render
      let message' := otpMessage otp (hashPhone cfg phone')
        (TimeText.rfc3339 expiry').render
      cfg.hmacSHA256Hex cfg.pepper message =
        cfg.hmacSHA256Hex cfg.pepper message' → message = message')
    (hyear : FourDigitYear expiry) (hyear' : FourDigitYear expiry') :
    verifyOTPMAC cfg candidate (hashPhone cfg phone)
        (TimeText.rfc3339 expiry).render
        (computeOTPMAC cfg otp (hashPhone cfg phone')
          (TimeText.rfc3339 expiry').render) = true ↔
      candidate = otp ∧ phone = phone' ∧ expiry = expiry' := by
  rw [verifyOTPMAC, beq_iff_eq]
  constructor
  · intro hmac
    obtain ⟨hotp, hhash, hexpiry⟩ := otpMessage_inj (hmessages hmac)
      (hdigest.trans hdigest'.symm)
      ((length_render hyear).trans (length_render hyear').symm)
    exact ⟨hotp, hphones hhash, render_injective hyear hyear' hexpiry⟩
  · rintro ⟨rfl, rfl, rfl⟩
    rfl

/-- A code that was sent passes, another one does not. -/
theorem only_sent_code_passes :
    let cfg := deployment []
    let expiresAt := (TimeText.rfc3339 1700000300).render
    let stored :=
      computeOTPMAC cfg "123456" (hashPhone cfg Deployment.phone) expiresAt
    verifyOTPMAC cfg "123456" (hashPhone cfg Deployment.phone) expiresAt
        stored = true ∧
      ¬ verifyOTPMAC cfg "654321" (hashPhone cfg Deployment.phone) expiresAt
        stored = true := by
  have hdigest : (hashPhone (deployment []) Deployment.phone).length =
      digestLength := by decide +kernel
  have hmessages : ∀ message message' : String,
      (deployment []).hmacSHA256Hex (deployment []).pepper message =
        (deployment []).hmacSHA256Hex (deployment []).pepper message' →
      message = message' := fun _ _ heq => (exchange macs).injective heq
  have hyear : FourDigitYear 1700000300 := by decide
  constructor
  · exact (verifyOTPMAC_iff hdigest hdigest (fun _ => rfl) (hmessages _ _)
      hyear hyear).mpr ⟨rfl, rfl, rfl⟩
  · rw [verifyOTPMAC_iff hdigest hdigest (fun _ => rfl) (hmessages _ _) hyear
      hyear]
    decide

end Binding

end MessagingPlatform.CodeBinding
