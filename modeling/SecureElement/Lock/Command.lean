/-
  SecureElement.Lock.Command

  The commands of the lock controller as values, so that a run of the controller is a list of them.
-/
import SecureElement.Lock.Controller

namespace SecureElement

/-- A command to the lock controller that goes into its journal. -/
inductive LockCommand where
  /-- Sets or clears the lock that the number names. -/
  | set (raw : UInt8) (enable : Bool) (payload : Bytes) (caller : Caller)
  | apply (request : LockRequest)
  /-- Checks a release token against a nonce and a binding from outside. -/
  | selfTest (last binding token : Bytes)
deriving DecidableEq

namespace LockController

variable {μ : Type} [Medium μ]

/-- Carries out a command; a self test that accepts its token gives back the nonce. -/
def execute (controller : LockController μ) (stage : LifecycleStage) :
    LockCommand → Except Refusal (Option Nonce) × LockController μ
  | .set raw enable payload caller =>
    (controller.set stage raw enable payload caller).map (Except.map fun _ => none) id
  | .apply request => (controller.apply stage request).map (Except.map fun _ => none) id
  | .selfTest last binding token =>
    (controller.selfTest last binding token).map (Except.map some) id

end LockController

end SecureElement
