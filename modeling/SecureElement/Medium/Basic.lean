/-
  SecureElement.Medium.Basic

  What the element asks of its persistent memory: numbered records of bounded size, each replaced as
  a whole or not at all.
-/
import SecureElement.Bytes.Basic
import SecureElement.Medium.Error

namespace SecureElement

/-- The number of a record. -/
@[ext]
structure RecordId where
  index : Nat
deriving DecidableEq, Repr, Inhabited

/-- A persistent memory of records.  A commit replaces the whole image of one record.  A commit that
fails has no outcome, so the medium that was handed in is still the one in force. -/
class Medium (μ : Type) where
  /-- The size of the largest image that a record may have. -/
  capacity : μ → Nat
  /-- The image of a record, or nothing if none was ever committed; an image larger than `room`
  bytes is not loaded. -/
  load : (medium : μ) → (id : RecordId) → (room : Nat) → Except MediumError (Option Bytes)
  /-- The medium in which a record has a new image. -/
  commit : (medium : μ) → (id : RecordId) → (image : Bytes) → Except MediumError μ

end SecureElement
