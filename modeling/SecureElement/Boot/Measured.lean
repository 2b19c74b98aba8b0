/-
  SecureElement.Boot.Measured

  The measured boot: registers and floors beside the medium that keeps them, and a journal.
  Registers are only ever extended, or reset together by the bootloader; a floor is only ever
  raised, and only by the bootloader.
-/
import SecureElement.Boot.Event
import SecureElement.Boot.State
import SecureElement.Record.Cell

namespace SecureElement

/-- The registers and floors, beside the medium that keeps them. -/
structure MeasuredBoot (μ : Type) where
  cell : RecordCell μ BootState
  journal : Journal

namespace MeasuredBoot

variable {μ : Type}

/-- The record that keeps registers and floors unless another is chosen. -/
def defaultRecord : RecordId :=
  ⟨65⟩

def state (boot : MeasuredBoot μ) : BootState :=
  boot.cell.value

/-- The measured boot after one more entry in its journal. -/
def record (boot : MeasuredBoot μ) (event : BootEvent) : MeasuredBoot μ :=
  { boot with journal := boot.journal.record event.note }

/-- The measured boot as a medium has it. -/
def restore [Medium μ] (medium : μ) (id : RecordId := defaultRecord)
    (least : Severity := .standard) : Except Refusal (MeasuredBoot μ) := do
  return ⟨← RecordCell.restore medium id BootState.initial, .create "bootreg" least⟩

/-! ## Registers -/

def registerOf (raw : UInt8) : Except Refusal (Fin registerCount) :=
  if h : raw.toNat < registerCount then .ok ⟨raw.toNat, h⟩ else .error .unknownSelector

def register (boot : MeasuredBoot μ) (raw : UInt8) : Except Refusal Digest :=
  (registerOf raw).map boot.state.registers.get

/-- Extends a register with a measurement of 32 bytes and gives back the register's new value. -/
def extend [Medium μ] (boot : MeasuredBoot μ) (raw : UInt8) (measurement : Bytes) :
    Except Refusal Digest × MeasuredBoot μ :=
  match registerOf raw, Block.ofBytes? 32 measurement with
  | .error refusal, _ => (.error refusal, boot)
  | .ok _, none => (.error .wrongLength, boot)
  | .ok register, some measurement =>
    let value := BootState.extended (boot.state.registers.get register) measurement
    match boot.cell.replace (boot.state.setRegister register value) with
    | (.ok (), cell) => (.ok value, { boot with cell }.record (.extended raw))
    | (.error refusal, cell) => (.error refusal, { boot with cell })

def reset [Medium μ] (boot : MeasuredBoot μ) (caller : Caller) :
    Except Refusal Unit × MeasuredBoot μ :=
  if caller.isBootloader then
    match boot.cell.replace boot.state.resetRegisters with
    | (.ok (), cell) => (.ok (), { boot with cell }.record .reset)
    | (.error refusal, cell) => (.error refusal, { boot with cell })
  else
    (.error .notAuthorised, boot.record (.resetRefused caller))

/-! ## Floors -/

def floorOf (raw : UInt8) : Except Refusal (Fin floorCount) :=
  if h : raw.toNat < floorCount then .ok ⟨raw.toNat, h⟩ else .error .unknownSelector

def floor (boot : MeasuredBoot μ) (raw : UInt8) : Except Refusal UInt64 :=
  (floorOf raw).map boot.state.floors.get

/-- The state with a floor raised, or nothing if the floor has the value already. -/
def planRaise (state : BootState) (caller : Caller) (raw : UInt8) (value : UInt64) :
    Except Refusal (Option BootState) := do
  if !caller.isBootloader then
    throw .notAuthorised
  let floor ← floorOf raw
  let current := state.floors.get floor
  if value < current then
    throw .notAllowed
  -- nothing to commit, but the command is carried out
  if value = current then
    return none
  return some (state.setFloor floor value)

/-- Raises a floor, without an entry in the journal. -/
def change [Medium μ] (boot : MeasuredBoot μ) (caller : Caller) (raw : UInt8) (value : UInt64) :
    Except Refusal Unit × MeasuredBoot μ :=
  match planRaise boot.state caller raw value with
  | .error refusal => (.error refusal, boot)
  | .ok none => (.ok (), boot)
  | .ok (some next) =>
    match boot.cell.replace next with
    | (result, cell) => (result, { boot with cell })

def raise [Medium μ] (boot : MeasuredBoot μ) (caller : Caller) (raw : UInt8) (value : UInt64) :
    Except Refusal Unit × MeasuredBoot μ :=
  match boot.change caller raw value with
  | (.ok (), after) => (.ok (), after.record (.floorRaised raw value))
  | (.error refusal, after) => (.error refusal, after.record (.floorRefused raw refusal))

end MeasuredBoot

end SecureElement
