/-
  SecureElement.Settings

  The settings of the whole element: how wrong keys are throttled, which nonces a release token may
  carry, and how much the audit logs keep.
-/
import SecureElement.Audit.Severity
import SecureElement.Backoff.Schedule
import SecureElement.Nonce

namespace SecureElement

/-- The settings of the element. -/
structure Settings where
  schedule : BackoffSchedule := {}
  nonces : NoncePolicy := {}
  least : Severity := .standard
deriving DecidableEq, Inhabited

/-- Refuses settings whose schedule of backoffs is not valid. -/
def Settings.validate (settings : Settings) : Except Refusal Unit :=
  settings.schedule.validate

end SecureElement
