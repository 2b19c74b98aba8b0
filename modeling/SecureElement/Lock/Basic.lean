/-
  SecureElement.Lock.Basic

  The four locks, each a bit of the lock mask.  A command names a lock by its bit.
-/
import SecureElement.Refusal

namespace SecureElement

/-- One of the locks. -/
inductive Lock where
  /-- The device is set up for its user. -/
  | provision
  | carrier
  /-- The user has locked the device from the running system. -/
  | device
  | boot
deriving DecidableEq, Repr, Inhabited

namespace Lock

def bit : Lock → UInt8
  | provision => 0x01
  | carrier => 0x02
  | device => 0x04
  | boot => 0x08

def name : Lock → String
  | provision => "provision"
  | carrier => "carrier-lock"
  | device => "device-lock"
  | boot => "boot-lock"

def all : List Lock :=
  [provision, carrier, device, boot]

/-- The mask in which every lock is set. -/
def fullMask : UInt8 :=
  0x0F

/-- The lock whose bit a command names. -/
def ofRaw (raw : UInt8) : Except Refusal Lock :=
  match all.find? fun lock => lock.bit == raw with
  | some lock => .ok lock
  | none => .error .unknownSelector

/-- A command's number names a lock exactly if it is that lock's bit. -/
theorem ofRaw_eq_ok_iff {raw : UInt8} {lock : Lock} : ofRaw raw = .ok lock ↔ raw = lock.bit := by
  constructor
  · intro h
    unfold ofRaw at h
    split at h
    · rename_i found eq
      cases h
      have found := List.find?_some eq
      exact (beq_iff_eq.mp found).symm
    · cases h
  · rintro rfl
    cases lock <;> rfl

end Lock

end SecureElement
