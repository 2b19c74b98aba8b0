/-
  SecureElement.Boot.State

  What a verified boot leaves behind for later: two registers, each a chain of digests over what was
  measured, and eight floors, each the newest version number that was booted.

  As a payload it is 128 bytes: the two registers (32 each) and the eight floors (8 each, least
  significant byte first).
-/
import SecureElement.Crypto.Sha256
import SecureElement.Record.Format

namespace SecureElement

def registerCount : Nat :=
  2

def floorCount : Nat :=
  8

/-- The measurement registers and version floors. -/
@[ext]
structure BootState where
  registers : Vector Digest registerCount
  floors : Vector UInt64 floorCount
deriving DecidableEq

namespace BootState

/-- The state of a device that never booted: everything is zero. -/
def initial : BootState :=
  ⟨.replicate registerCount (.zero 32), .replicate floorCount 0⟩

instance : Inhabited BootState :=
  ⟨initial⟩

/-- The value of a register that is extended with a measurement: the digest of both in a row. -/
def extended (register : Digest) (measurement : Block 32) : Digest :=
  Sha256.hashConcat register.bytes measurement.bytes

def setRegister (state : BootState) (register : Fin registerCount) (value : Digest) : BootState :=
  { state with registers := state.registers.set register.val value }

def resetRegisters (state : BootState) : BootState :=
  { state with registers := .replicate registerCount (.zero 32) }

def setFloor (state : BootState) (floor : Fin floorCount) (value : UInt64) : BootState :=
  { state with floors := state.floors.set floor.val value }

instance : Persistent BootState where
  size := 128
  encode state :=
    Block.join state.registers ++
      Block.join (state.floors.map fun floor => Block.littleEndian 8 floor.toNat)
  decode block :=
    let registers : Block (registerCount * 32) := block.slice 0 64
    let floors : Block (floorCount * 8) := block.slice 64 64
    .ok ⟨registers.pieces, floors.pieces.map fun floor => UInt64.ofNat floor.toNat⟩

end BootState

end SecureElement
