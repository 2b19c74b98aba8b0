/-
  SecureElement.Lock.Event

  What the lock controller writes to its journal.  Events name locks, masks and refusals; no event
  carries a payload, a nonce or a digest.
-/
import SecureElement.Audit.Log
import SecureElement.Lock.Basic

namespace SecureElement

/-- What happened in the lock controller. -/
inductive LockEvent where
  | opened (mask : UInt8)
  | unknownLock (raw : UInt8)
  /-- A lock was set or cleared, and the mask is now this. -/
  | changed (lock : Lock) (enable : Bool) (mask : UInt8)
  | refused (lock : Lock) (enable : Bool) (refusal : Refusal)
  | testPassed
  | testRefused (refusal : Refusal)
deriving DecidableEq

namespace LockEvent

def action (enable : Bool) : String :=
  if enable then "enable" else "disable"

def note : LockEvent → AuditNote
  | opened mask => ⟨.info, ["opened, mask=0x", Text.upperHex 2 mask.toNat]⟩
  | unknownLock raw => ⟨.warn, ["selector 0x", Text.upperHex 2 raw.toNat, " rejected"]⟩
  | changed lock enable mask =>
    ⟨.info, [lock.name, " ", action enable, ", mask=0x", Text.upperHex 2 mask.toNat]⟩
  | refused lock enable refusal =>
    ⟨.warn, [lock.name, " ", action enable, " rejected: ", refusal.message]⟩
  | testPassed => ⟨.info, ["test vector verified"]⟩
  | testRefused refusal => ⟨.warn, ["test vector rejected: ", refusal.message]⟩

end LockEvent

end SecureElement
