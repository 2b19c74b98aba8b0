/-
  SecureElement.Boot.Scratchpad

  The scratchpad: 4096 bytes in which the bootloader keeps what it needs from one boot to the next.
  Anyone may read them; only the bootloader may write, and every write is one commit of all of them.
-/
import SecureElement.Boot.Event
import SecureElement.Record.Cell

namespace SecureElement

/-! ## Contents -/

def scratchSize : Nat :=
  4096

/-- The contents of the scratchpad. -/
@[ext]
structure ScratchImage where
  block : Block scratchSize
deriving DecidableEq

namespace ScratchImage

/-- The contents of a scratchpad that was never written: zeros. -/
def initial : ScratchImage :=
  ⟨.zero scratchSize⟩

instance : Inhabited ScratchImage :=
  ⟨initial⟩

/-- What may be shown of the contents: their size. -/
def summary (_ : ScratchImage) : String :=
  "StorageImage(" ++ Text.decimal scratchSize ++ " bytes)"

instance : Persistent ScratchImage where
  size := scratchSize
  encode := block
  decode block := .ok ⟨block⟩

end ScratchImage

/-! ## The scratchpad -/

/-- The contents, beside the medium that keeps them. -/
structure Scratchpad (μ : Type) where
  cell : RecordCell μ ScratchImage
  journal : Journal

namespace Scratchpad

variable {μ : Type}

/-- The record that keeps the contents unless another is chosen. -/
def defaultRecord : RecordId :=
  ⟨66⟩

def image (pad : Scratchpad μ) : ScratchImage :=
  pad.cell.value

/-- The scratchpad after one more entry in its journal. -/
def record (pad : Scratchpad μ) (event : ScratchEvent) : Scratchpad μ :=
  { pad with journal := pad.journal.record event.note }

/-- The scratchpad as a medium has it. -/
def restore [Medium μ] (medium : μ) (id : RecordId := defaultRecord)
    (least : Severity := .standard) : Except Refusal (Scratchpad μ) := do
  return ⟨← RecordCell.restore medium id ScratchImage.initial, .create "bootstore" least⟩

/-- The `length` bytes from an offset on.  They have to lie inside the scratchpad, and so has the
offset, even if there is nothing to read. -/
def load (pad : Scratchpad μ) (offset : UInt16) (length : Nat) : Except Refusal Bytes :=
  if scratchSize ≤ offset.toNat then
    .error .outOfBounds
  else if h : offset.toNat + length ≤ scratchSize then
    .ok (pad.image.block.slice offset.toNat length h).bytes
  else
    .error .outOfBounds

/-- Reads as many bytes from an offset on as a buffer has room for.  A read that is refused leaves
the buffer as it is. -/
def loadInto (pad : Scratchpad μ) (offset : UInt16) (buffer : Bytes) :
    Except Refusal Unit × Bytes :=
  match pad.load offset buffer.length with
  | .ok bytes => (.ok (), bytes)
  | .error refusal => (.error refusal, buffer)

/-- The contents with bytes written at an offset.  Only the bootloader may write; the offset has to
lie inside the scratchpad, and so have the bytes. -/
def planStore (image : ScratchImage) (caller : Caller) (offset : UInt16) (data : Bytes) :
    Except Refusal ScratchImage :=
  if !caller.isBootloader then
    .error .notAuthorised
  else if scratchSize ≤ offset.toNat then
    .error .outOfBounds
  else if h : offset.toNat + data.length ≤ scratchSize then
    .ok ⟨image.block.overwrite offset.toNat data h⟩
  else
    .error .malformed

/-- Writes bytes at an offset, without an entry in the journal. -/
def change [Medium μ] (pad : Scratchpad μ) (caller : Caller) (offset : UInt16) (data : Bytes) :
    Except Refusal Unit × Scratchpad μ :=
  match planStore pad.image caller offset data with
  | .error refusal => (.error refusal, pad)
  | .ok next =>
    match pad.cell.replace next with
    | (result, cell) => (result, { pad with cell })

def store [Medium μ] (pad : Scratchpad μ) (caller : Caller) (offset : UInt16) (data : Bytes) :
    Except Refusal Unit × Scratchpad μ :=
  match pad.change caller offset data with
  | (.ok (), after) => (.ok (), after.record (.stored data.length offset))
  | (.error refusal, after) => (.error refusal, after.record (.refused offset refusal))

end Scratchpad

end SecureElement
