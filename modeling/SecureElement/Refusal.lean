/-
  SecureElement.Refusal

  Why a command is refused.  Each refusal has a status word for the wire and a cause in words; the
  two that throttling produces carry the time that the caller has to wait.
-/
import SecureElement.Text.Numeral
import SecureElement.Time.Basic

namespace SecureElement

/-- The status word of a command that was carried out. -/
def successStatus : UInt16 :=
  0x9000

/-- Why a command was refused. -/
inductive Refusal where
  | unknownSlot
  /-- The presented key is not the slot's key; the slot refuses attempts for this long. -/
  | wrongKey (backoff : Duration)
  /-- The slot refuses attempts for this much longer. -/
  | throttled (remaining : Duration)
  | wrongLength
  /-- The present state does not allow the command. -/
  | notAllowed
  | notAuthorised
  | malformed
  /-- No lock, register or floor has this number. -/
  | unknownSelector
  | outOfBounds
  | recordUnreadable
  | recordUnwritable
  | recordDamaged
  /-- A cryptographic operation could not be carried out. -/
  | cryptoFailed
  /-- The element is not set up as it has to be. -/
  | internalFault
deriving DecidableEq, Inhabited

namespace Refusal

def status : Refusal → UInt16
  | wrongKey _ => 0x6A85
  | unknownSlot => 0x6A86
  | throttled _ => 0x6A87
  | wrongLength => 0x6700
  | notAuthorised => 0x6982
  | malformed => 0x6984
  | notAllowed => 0x6985
  | outOfBounds => 0x6A84
  | unknownSelector => 0x6B00
  | recordUnwritable => 0x6581
  | recordUnreadable => 0x6F01
  | recordDamaged => 0x6F02
  | cryptoFailed => 0x6F03
  | internalFault => 0x6F00

/-- The time that the caller has to wait, for the refusals that carry one. -/
def wait? : Refusal → Option Duration
  | wrongKey backoff => some backoff
  | throttled remaining => some remaining
  | _ => none

/-- Whether the refusal is about the caller's authorisation. -/
def isSecurity : Refusal → Bool
  | wrongKey _ | throttled _ | notAuthorised => true
  | _ => false

def cause : Refusal → String
  | unknownSlot => "invalid slot id"
  | wrongKey _ => "wrong key"
  | throttled _ => "slot throttled"
  | wrongLength => "wrong length"
  | notAllowed => "conditions not satisfied"
  | notAuthorised => "security status not satisfied"
  | malformed => "invalid data"
  | unknownSelector => "invalid selector"
  | outOfBounds => "offset out of bounds"
  | recordUnreadable => "storage read failed"
  | recordUnwritable => "storage write failed"
  | recordDamaged => "storage corrupted"
  | cryptoFailed => "crypto error"
  | internalFault => "internal error"

/-- The refusal's message: status word, cause and, where there is one, the time to wait. -/
def message (refusal : Refusal) : String :=
  Text.coded refusal.status refusal.cause ++
    match refusal.wait? with
    | some span => " (" ++ Text.decimal span.ms.toNat ++ " ms)"
    | none => ""

end Refusal

end SecureElement
