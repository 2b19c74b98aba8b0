/-
  SecureElement.Boot.Command

  The commands that may change the measured boot, as values, so that a run of it is a list of them.
-/
import SecureElement.Boot.Measured

namespace SecureElement

/-- A command to the measured boot that may change it. -/
inductive BootCommand where
  | extend (register : UInt8) (measurement : Bytes)
  | reset (caller : Caller)
  | raise (caller : Caller) (floor : UInt8) (value : UInt64)
deriving DecidableEq

namespace MeasuredBoot

variable {μ : Type} [Medium μ]

/-- Carries out a command; a register that was extended gives back its new value. -/
def execute (boot : MeasuredBoot μ) : BootCommand → Except Refusal (Option Digest) × MeasuredBoot μ
  | .extend register measurement => (boot.extend register measurement).map (Except.map some) id
  | .reset caller => (boot.reset caller).map (Except.map fun _ => none) id
  | .raise caller floor value =>
    (boot.raise caller floor value).map (Except.map fun _ => none) id

end MeasuredBoot

end SecureElement
