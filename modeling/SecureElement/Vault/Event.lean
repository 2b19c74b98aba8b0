/-
  SecureElement.Vault.Event

  What the vault writes to its audit log.  Events name slots, counts and refusals; no event carries
  a key or a value.
-/
import SecureElement.Audit.Log
import SecureElement.Slot.Access

namespace SecureElement

/-- What happened in the vault. -/
inductive VaultEvent where
  /-- The vault was opened, and this many slots had a record. -/
  | opened (restored : Nat)
  | written (index : SlotIndex)
  /-- A slot was read that had no failure to clear. -/
  | read (index : SlotIndex)
  /-- A slot was read and its failures were cleared. -/
  | readAfterFailures (index : SlotIndex) (count : UInt16)
  | wrongKey (index : SlotIndex) (failures : UInt16) (backoff : Duration)
  | throttled (index : SlotIndex) (remaining : Duration)
  | readRefused (index : SlotIndex) (refusal : Refusal)
  | erased (index : SlotIndex)
  | allErased
deriving DecidableEq

namespace VaultEvent

/-- The event of a read: how it went, and the slot's failure count afterwards. -/
def ofRead (index : SlotIndex) (failures : UInt16) : Except Refusal Grant → VaultEvent
  | .ok .clean => read index
  | .ok (.afterFailures count) => readAfterFailures index count
  | .error (.wrongKey backoff) => wrongKey index failures backoff
  | .error (.throttled remaining) => throttled index remaining
  | .error refusal => readRefused index refusal

def note : VaultEvent → AuditNote
  | opened restored => ⟨.info, ["opened, ", Text.decimal restored, " slot records restored"]⟩
  | written index => ⟨.info, ["slot ", index.name, " written"]⟩
  | read index => ⟨.debug, ["slot ", index.name, " read"]⟩
  | readAfterFailures index count =>
    ⟨.info, ["slot ", index.name, " read, ", Text.decimal count.toNat, " failures cleared"]⟩
  | wrongKey index failures backoff =>
    ⟨.warn, ["slot ", index.name, " wrong key, failures=", Text.decimal failures.toNat,
      " backoff=", Text.decimal backoff.ms.toNat, "ms"]⟩
  | throttled index remaining =>
    ⟨.warn, ["slot ", index.name, " throttled, ", Text.decimal remaining.ms.toNat, "ms left"]⟩
  | readRefused index refusal => ⟨.warn, ["slot ", index.name, " read failed: ", refusal.message]⟩
  | erased index => ⟨.info, ["slot ", index.name, " erased"]⟩
  | allErased => ⟨.info, ["all slots erased"]⟩

end VaultEvent

end SecureElement
