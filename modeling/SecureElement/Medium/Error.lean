/-
  SecureElement.Medium.Error

  Why a record cannot be loaded or stored, and how a command that needed it is refused.
-/
import SecureElement.Refusal

namespace SecureElement

/-- Why a record could not be loaded or stored. -/
inductive MediumError where
  /-- The medium has no record of this number. -/
  | unknownRecord
  | tooLarge
  | unreadable
  | notCommitted
  /-- The image has the wrong length or the wrong checksum. -/
  | damaged
  /-- The image is intact, but a field in it is outside its domain. -/
  | outOfDomain
deriving DecidableEq, Repr, Inhabited

namespace MediumError

def code : MediumError → UInt16
  | unknownRecord => 0x0890
  | tooLarge => 0x0891
  | unreadable => 0x0892
  | notCommitted => 0x0893
  | damaged => 0x08C2
  | outOfDomain => 0x08C3

def cause : MediumError → String
  | unknownRecord => "invalid record id"
  | tooLarge => "record too large"
  | unreadable => "store read failed"
  | notCommitted => "store commit failed"
  | damaged => "record integrity check failed"
  | outOfDomain => "invalid record encoding"

def message (error : MediumError) : String :=
  Text.coded error.code error.cause

/-- How a command that met the error is refused. -/
def toRefusal : MediumError → Refusal
  | unknownRecord | tooLarge => .internalFault
  | unreadable => .recordUnreadable
  | notCommitted => .recordUnwritable
  | damaged | outOfDomain => .recordDamaged

end MediumError

end SecureElement
