/-
  SecureElement.Lock.Controller

  The lock controller: the locks beside the medium that keeps them, what it takes to accept release
  tokens, and a journal.  A request is checked first and then committed as one record, so a refused
  request changes nothing but the journal.
-/
import SecureElement.Lock.Event
import SecureElement.Lock.Request
import SecureElement.Record.Cell
import SecureElement.Settings

namespace SecureElement

/-- The locks and what guards them. -/
structure LockController (μ : Type) where
  cell : RecordCell μ Locks
  authority : ReleaseAuthority
  journal : Journal

namespace LockController

variable {μ : Type}

/-- The record that keeps the locks unless another is chosen. -/
def defaultRecord : RecordId :=
  ⟨64⟩

def locks (controller : LockController μ) : Locks :=
  controller.cell.value

/-- The controller after one more entry in its journal. -/
def record (controller : LockController μ) (event : LockEvent) : LockController μ :=
  { controller with journal := controller.journal.record event.note }

/-! ## Opening -/

/-- The controller as a medium has it.  On a medium that never committed them, no lock is set. -/
def restore [Medium μ] (medium : μ) (authority : ReleaseAuthority)
    (id : RecordId := defaultRecord) (least : Severity := .standard) :
    Except Refusal (LockController μ) := do
  let cell ← RecordCell.restore medium id Locks.initial
  let opened : LockController μ := ⟨cell, authority, .create "lock" least⟩
  return opened.record (.opened cell.value.mask)

/-- The controller as a medium has it, with the settings of the whole element. -/
def restoreWith [Medium μ] (medium : μ) (signatures : SignatureCheck) (settings : Settings) :
    Except Refusal (LockController μ) := do
  settings.validate
  restore medium ⟨signatures, settings.nonces⟩ defaultRecord settings.least

/-! ## Commands -/

/-- The whole mask for the number zero, and the lock's bit of it for a number that names a lock. -/
def get (controller : LockController μ) (raw : UInt8) : Except Refusal UInt8 :=
  if raw = 0 then
    .ok controller.locks.mask
  else
    (Lock.ofRaw raw).map fun lock => controller.locks.mask &&& lock.bit

/-- Carries out a request, without an entry in the journal. -/
def change [Medium μ] (controller : LockController μ) (stage : LifecycleStage)
    (request : LockRequest) : Except Refusal Unit × LockController μ :=
  match controller.locks.plan controller.authority stage request with
  | .error refusal => (.error refusal, controller)
  | .ok none => (.ok (), controller)
  | .ok (some next) =>
    match controller.cell.replace next with
    | (result, cell) => (result, { controller with cell })

/-- The event of a request, with how it went and the locks afterwards. -/
def outcome (request : LockRequest) (locks : Locks) : Except Refusal Unit → LockEvent
  | .ok () => .changed request.lock request.enable locks.mask
  | .error refusal => .refused request.lock request.enable refusal

def apply [Medium μ] (controller : LockController μ) (stage : LifecycleStage)
    (request : LockRequest) : Except Refusal Unit × LockController μ :=
  match controller.change stage request with
  | (result, after) => (result, after.record (outcome request after.locks result))

/-- Carries out the request of a command that names the lock by its bit. -/
def set [Medium μ] (controller : LockController μ) (stage : LifecycleStage) (raw : UInt8)
    (enable : Bool) (payload : Bytes) (caller : Caller) :
    Except Refusal Unit × LockController μ :=
  match Lock.ofRaw raw with
  | .ok lock => controller.apply stage (.ofLock lock enable payload caller)
  | .error refusal => (.error refusal, controller.record (.unknownLock raw))

/-- Checks a release token against a nonce and a binding from outside.  The locks are not
touched. -/
def selfTest (controller : LockController μ) (last binding token : Bytes) :
    Except Refusal Nonce × LockController μ :=
  match controller.authority.selfTest last binding token with
  | .ok nonce => (.ok nonce, controller.record .testPassed)
  | .error refusal => (.error refusal, controller.record (.testRefused refusal))

end LockController

end SecureElement
