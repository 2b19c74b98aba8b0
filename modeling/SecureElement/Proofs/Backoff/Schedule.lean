/-
  SecureElement.Proofs.Backoff.Schedule

  Backoffs as numbers of milliseconds.  A backoff is what the schedule says for the failure count,
  cut to the ceiling, so the ceiling bounds every one of them.
-/
import SecureElement.Backoff.Schedule

namespace SecureElement

namespace BackoffSchedule

/-- A backoff is cut to the ceiling, and nothing is lost when it is made a duration. -/
theorem toNat_backoff (schedule : BackoffSchedule) (failures : UInt16) :
    (schedule.backoff failures).ms.toNat =
      min (schedule.uncut failures).toNat schedule.ceiling.ms.toNat := by
  have hceiling : schedule.ceiling.ms.toUInt64.toNat = schedule.ceiling.ms.toNat :=
    UInt32.toNat_toUInt64 _
  have hlt := schedule.ceiling.ms.toNat_lt
  have hmin : (min (schedule.uncut failures) schedule.ceiling.ms.toUInt64).toNat =
      min (schedule.uncut failures).toNat schedule.ceiling.ms.toNat := by
    rw [← hceiling]
    show (if schedule.uncut failures ≤ schedule.ceiling.ms.toUInt64 then schedule.uncut failures
      else schedule.ceiling.ms.toUInt64).toNat = _
    split
    · rename_i h
      exact (Nat.min_eq_left h).symm
    · rename_i h
      have hle := UInt64.le_of_lt (UInt64.not_le.mp h)
      exact (Nat.min_eq_right hle).symm
  show (min (schedule.uncut failures) schedule.ceiling.ms.toUInt64).toUInt32.toNat = _
  rw [UInt64.toNat_toUInt32, hmin, Nat.mod_eq_of_lt]
  exact Nat.lt_of_le_of_lt (Nat.min_le_right _ _) hlt

/-- No backoff is longer than the ceiling. -/
theorem backoff_le_ceiling (schedule : BackoffSchedule) (failures : UInt16) :
    (schedule.backoff failures).ms.toNat ≤ schedule.ceiling.ms.toNat := by
  rw [toNat_backoff]
  exact Nat.min_le_right _ _

end BackoffSchedule

end SecureElement
