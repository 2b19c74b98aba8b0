/-
  SecureElement.Record.Format

  Values as records.  A persistent type has payloads of one size; on a medium the payload is
  followed by its checksum, four bytes with the least significant first.  An image of another length
  or with another checksum is damaged; an intact one may still hold a field outside its domain.
-/
import SecureElement.Bytes.Endian
import SecureElement.Medium.Basic
import SecureElement.Record.Checksum

namespace SecureElement

/-- A type whose values are kept as payloads of one size. -/
class Persistent (ρ : Type) where
  size : Nat
  encode : ρ → Block size
  /-- The value of a payload, unless a field in it is outside its domain. -/
  decode : Block size → Except MediumError ρ

namespace Persistent

variable {ρ μ : Type}

/-! ## Sizes -/

/-- The size of the largest payload that a record may have. -/
def maxSize : Nat :=
  4096

def checksumSize : Nat :=
  4

def maxImageSize : Nat :=
  maxSize + checksumSize

section

variable (ρ) [Persistent ρ]

/-- The size of an image of this type. -/
def imageSize : Nat :=
  size ρ + checksumSize

/-! ## Reading -/

/-- The value of a payload of any length; one of the wrong length has no value. -/
def ofBytes (payload : Bytes) : Except MediumError ρ :=
  match Block.ofBytes? (size ρ) payload with
  | some block => decode block
  | none => .error .outOfDomain

/-- The value in an image, if its length, its checksum and its fields are right. -/
def ofImage (image : Bytes) : Except MediumError ρ :=
  if h : image.length = imageSize ρ then
    -- the length is known here, so what is left after the payload are the four checksum bytes
    let payload : Block (size ρ) := ⟨image.take (size ρ), by
      rw [List.length_take, h, imageSize]
      omega⟩
    if Bytes.ofLittleEndian (image.drop (size ρ)) = (Crc32.checksum payload.bytes).toNat then
      decode payload
    else
      .error .damaged
  else
    .error .damaged

/-- The value that a medium has for a record, or nothing if none was ever committed. -/
def load [Medium μ] (medium : μ) (id : RecordId) : Except MediumError (Option ρ) :=
  if maxSize < size ρ then
    .error .tooLarge
  else
    match Medium.load medium id maxImageSize with
    | .error error => .error error
    | .ok none => .ok none
    | .ok (some image) => (ofImage ρ image).map some

end

/-! ## Writing -/

variable [Persistent ρ]

/-- The image of a value: its payload and the payload's checksum. -/
def image (value : ρ) : Bytes :=
  let payload := (encode value).bytes
  payload ++ Bytes.littleEndian checksumSize (Crc32.checksum payload).toNat

/-- The medium on which a record holds a value. -/
def save [Medium μ] (medium : μ) (id : RecordId) (value : ρ) : Except MediumError μ :=
  if maxSize < size ρ then .error .tooLarge else Medium.commit medium id (image value)

/-- An image is as long as its type says. -/
theorem length_image (value : ρ) : (image value).length = imageSize ρ := by
  simp [image, imageSize, (encode value).length_bytes]

end Persistent

/-- A block of raw bytes is its own payload. -/
instance (n : Nat) : Persistent (Block n) where
  size := n
  encode := id
  decode := .ok

end SecureElement
