/-
  SecureElement.Backoff.Schedule

  How long a slot refuses attempts after a number of wrong keys in a row.  The first failures are
  free; then each costs a flat backoff; then the backoff doubles every so many failures; and at last
  it stays at its ceiling.
-/
import SecureElement.Refusal

namespace SecureElement

/-- A schedule of backoffs, with the failure counts at which its bands begin. -/
structure BackoffSchedule where
  /-- The failure count at which the flat backoff begins. -/
  flatFrom : UInt16 := 5
  flat : Duration := ⟨30000⟩
  doublingFrom : UInt16 := 30
  doublingEvery : UInt16 := 10
  /-- The failure count from which the backoff is the ceiling. -/
  ceilingFrom : UInt16 := 140
  ceiling : Duration := ⟨86400000⟩
deriving DecidableEq, Inhabited

namespace BackoffSchedule

/-! ## Validity -/

/-- A schedule whose bands follow each other and whose flat backoff is below the ceiling. -/
structure Valid (schedule : BackoffSchedule) : Prop where
  doublingEvery_ne_zero : schedule.doublingEvery ≠ 0
  flatFrom_ne_zero : schedule.flatFrom ≠ 0
  flatFrom_le : schedule.flatFrom ≤ schedule.doublingFrom
  doublingFrom_le : schedule.doublingFrom ≤ schedule.ceilingFrom
  flat_le : schedule.flat ≤ schedule.ceiling

/-- A schedule is valid exactly if each of its five conditions holds. -/
theorem valid_iff (schedule : BackoffSchedule) :
    schedule.Valid ↔
      schedule.doublingEvery ≠ 0 ∧ schedule.flatFrom ≠ 0 ∧
        schedule.flatFrom ≤ schedule.doublingFrom ∧
          schedule.doublingFrom ≤ schedule.ceilingFrom ∧ schedule.flat ≤ schedule.ceiling :=
  ⟨fun ⟨a, b, c, d, e⟩ => ⟨a, b, c, d, e⟩, fun ⟨a, b, c, d, e⟩ => ⟨a, b, c, d, e⟩⟩

instance (schedule : BackoffSchedule) : Decidable schedule.Valid :=
  decidable_of_iff' _ (valid_iff schedule)

/-- Refuses a schedule that is not valid. -/
def validate (schedule : BackoffSchedule) : Except Refusal Unit :=
  if schedule.Valid then .ok () else .error .malformed

/-! ## Backoffs -/

/-- How often the backoff has doubled at a failure count at or past the start of doubling.  Past 32
doublings even the smallest backoff is longer than any duration. -/
def doublings (schedule : BackoffSchedule) (failures : UInt16) : UInt16 :=
  min ((failures - schedule.doublingFrom) / max schedule.doublingEvery 1) 32

/-- The backoff in milliseconds before it is cut to the ceiling. -/
def uncut (schedule : BackoffSchedule) (failures : UInt16) : UInt64 :=
  if failures = 0 ∨ failures < schedule.flatFrom then
    0
  else if failures < schedule.doublingFrom then
    schedule.flat.ms.toUInt64
  else if failures < schedule.ceilingFrom then
    schedule.flat.ms.toUInt64 <<< (schedule.doublings failures).toUInt64
  else
    schedule.ceiling.ms.toUInt64

/-- The backoff after a number of failures in a row. -/
def backoff (schedule : BackoffSchedule) (failures : UInt16) : Duration :=
  ⟨(min (schedule.uncut failures) schedule.ceiling.ms.toUInt64).toUInt32⟩

end BackoffSchedule

/-! ## Responses -/

/-- A backoff as a response of a value's length: the milliseconds in four bytes, most significant
first, and zeros. -/
def Duration.toResponse (backoff : Duration) : Block 16 :=
  Block.bigEndian 4 backoff.ms.toNat ++ Block.zero 12

end SecureElement
