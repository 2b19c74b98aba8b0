/-
  SecureElement.Lock.State

  The state of the locks: which are set, the nonce of the last accepted release token, and the
  digest by which the device is bound to a carrier.

  As a payload it is 41 bytes: the mask (1), the nonce (8, least significant byte first) and the
  binding (32).
-/
import SecureElement.Lock.Basic
import SecureElement.Record.Format
import SecureElement.Release.Token

namespace SecureElement

/-- The state of the locks. -/
@[ext]
structure Locks where
  /-- The bits of the locks that are set. -/
  mask : UInt8
  nonce : Nonce
  /-- The device's binding, zero while there is none. -/
  binding : DeviceBinding
deriving DecidableEq

namespace Locks

/-- The state of a device on which no lock was ever set. -/
def initial : Locks :=
  ⟨0, .zero, .zero 32⟩

instance : Inhabited Locks :=
  ⟨initial⟩

/-- Whether all of these bits are set. -/
def hasBits (locks : Locks) (bits : UInt8) : Bool :=
  locks.mask &&& bits == bits

def isSet (locks : Locks) (lock : Lock) : Bool :=
  locks.hasBits lock.bit

/-- The state with a lock set or cleared. -/
def set (locks : Locks) (lock : Lock) (enable : Bool) : Locks :=
  { locks with mask := if enable then locks.mask ||| lock.bit else locks.mask &&& ~~~lock.bit }

instance : Persistent Locks where
  size := 41
  encode locks := Block.littleEndian 1 locks.mask.toNat ++ locks.nonce.toBlock ++ locks.binding
  decode block :=
    let mask := UInt8.ofNat (block.slice 0 1).toNat
    if mask &&& ~~~Lock.fullMask = 0 then
      .ok
        { mask
          nonce := .ofBlock (block.slice 1 8)
          binding := block.slice 9 32 }
    else
      .error .outOfDomain

end Locks

end SecureElement
