/-
  SecureElement.Boot.Event

  What the two boot components write to their journals: the measured boot about its registers and
  floors, the scratchpad about its writes.
-/
import SecureElement.Audit.Log
import SecureElement.Caller
import SecureElement.Refusal

namespace SecureElement

/-! ## Measured boot -/

/-- What happened in the measured boot. -/
inductive BootEvent where
  | extended (register : UInt8)
  | reset
  | resetRefused (caller : Caller)
  | floorRaised (floor : UInt8) (value : UInt64)
  | floorRefused (floor : UInt8) (refusal : Refusal)
deriving DecidableEq

def BootEvent.note : BootEvent → AuditNote
  | extended register => ⟨.debug, ["config register ", Text.decimal register.toNat, " extended"]⟩
  | reset => ⟨.info, ["config registers reset"]⟩
  | resetRefused caller => ⟨.warn, ["config reset by ", caller.name, " rejected"]⟩
  | floorRaised floor value =>
    ⟨.info, ["rollback index ", Text.decimal floor.toNat, " = ", Text.decimal value.toNat]⟩
  | floorRefused floor refusal =>
    ⟨.warn, ["rollback index ", Text.decimal floor.toNat, " update rejected: ", refusal.message]⟩

/-! ## Scratchpad -/

/-- What happened in the scratchpad. -/
inductive ScratchEvent where
  /-- This many bytes were written at an offset. -/
  | stored (length : Nat) (offset : UInt16)
  | refused (offset : UInt16) (refusal : Refusal)
deriving DecidableEq

def ScratchEvent.note : ScratchEvent → AuditNote
  | stored length offset =>
    ⟨.info, ["stored ", Text.decimal length, " bytes at ", Text.decimal offset.toNat]⟩
  | refused offset refusal =>
    ⟨.warn, ["store at ", Text.decimal offset.toNat, " rejected: ", refusal.message]⟩

end SecureElement
