/-
  SecureElement.Lock.Request

  Requests to set or clear a lock, and what a request that is allowed makes of the locks.  Until a
  device is provisioned, only provisioning it and binding it to a carrier are allowed.

  - Provisioning: anyone may provision a device, and the bootloader may do so again.  Anyone may
    undo it, which resets all locks.
  - Carrier lock: set in the factory before provisioning; cleared afterwards by a release token.
  - Device lock: set and cleared by the running system.
  - Boot lock: set and cleared by the bootloader, but not cleared under the carrier or device lock.
-/
import SecureElement.Caller
import SecureElement.Lifecycle
import SecureElement.Lock.State
import SecureElement.Release.Authority

namespace SecureElement

/-! ## Requests -/

/-- A request to set or clear a lock. -/
inductive LockRequest where
  | provision (enable : Bool) (caller : Caller)
  /-- Binds the device to a carrier by the device data in the payload, or releases it by the token
  in the payload. -/
  | carrier (enable : Bool) (payload : Bytes)
  | device (enable : Bool) (caller : Caller)
  | boot (enable : Bool) (caller : Caller)
deriving DecidableEq

namespace LockRequest

/-- The request to set or clear a lock, with the arguments that any of them may need. -/
def ofLock (lock : Lock) (enable : Bool) (payload : Bytes) (caller : Caller) : LockRequest :=
  match lock with
  | .provision => provision enable caller
  | .carrier => carrier enable payload
  | .device => device enable caller
  | .boot => boot enable caller

/-- The lock that a request is about. -/
def lock : LockRequest → Lock
  | provision _ _ => .provision
  | carrier _ _ => .carrier
  | device _ _ => .device
  | boot _ _ => .boot

/-- Whether a request is to set its lock. -/
def enable : LockRequest → Bool
  | provision enable _ | carrier enable _ | device enable _ | boot enable _ => enable

end LockRequest

/-! ## What requests come to -/

namespace Locks

/-- Allows what only a provisioned device may do. -/
def requireProvisioned (locks : Locks) : Except Refusal Unit :=
  if locks.isSet .provision then .ok () else .error .notAllowed

def provision (locks : Locks) (caller : Caller) : Except Refusal Locks :=
  if locks.isSet .provision && !caller.isBootloader then
    .error .notAuthorised
  else
    .ok (locks.set .provision true)

def bindCarrier (locks : Locks) (stage : LifecycleStage) (payload : Bytes) :
    Except Refusal Locks :=
  if locks.isSet .provision || stage.isProduction then
    .error .notAllowed
  else
    .ok ({ locks with binding := .ofData payload }.set .carrier true)

/-- Releasing from the carrier.  For a device that is not bound there is nothing to change, and the
payload is not looked at. -/
def releaseCarrier (locks : Locks) (authority : ReleaseAuthority) (payload : Bytes) :
    Except Refusal (Option Locks) := do
  locks.requireProvisioned
  if locks.isSet .carrier then
    let nonce ← authority.accept locks.nonce locks.binding payload
    -- a binding that was released is forgotten; the nonce keeps the token from being used again
    return some { locks.set .carrier false with nonce, binding := .zero 32 }
  else
    return none

def setDevice (locks : Locks) (enable : Bool) (caller : Caller) : Except Refusal Locks := do
  locks.requireProvisioned
  if caller.isBootloader then
    throw .notAllowed
  return locks.set .device enable

def setBoot (locks : Locks) (enable : Bool) (caller : Caller) : Except Refusal Locks := do
  locks.requireProvisioned
  if !caller.isBootloader then
    throw .notAuthorised
  if !enable && (locks.isSet .carrier || locks.isSet .device) then
    throw .notAllowed
  return locks.set .boot enable

/-- The state that a request asks for, or nothing if there is nothing to change. -/
def plan (locks : Locks) (authority : ReleaseAuthority) (stage : LifecycleStage) :
    LockRequest → Except Refusal (Option Locks)
  | .provision true caller => (locks.provision caller).map some
  | .provision false _ => .ok (some initial)
  | .carrier true payload => (locks.bindCarrier stage payload).map some
  | .carrier false payload => locks.releaseCarrier authority payload
  | .device enable caller => (locks.setDevice enable caller).map some
  | .boot enable caller => (locks.setBoot enable caller).map some

end Locks

end SecureElement
