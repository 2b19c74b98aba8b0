/-
  SecureElement.Proofs.Time.Deadline

  Instants and durations as numbers.  A deadline is the sum of an instant and a duration, cut to the
  last instant; nothing is left of it exactly from that instant on, and until then what is left is
  the difference, unless that is more than a duration can say.
-/
import SecureElement.Time.Clock

namespace SecureElement

/-- The largest number of milliseconds in a duration. -/
def Duration.maxMs : Nat :=
  0xFFFFFFFF

/-- The number of milliseconds at the last instant. -/
def Instant.maxMs : Nat :=
  0xFFFFFFFFFFFFFFFF

namespace Duration

theorem toNat_clamp (n : Nat) : (clamp n).ms.toNat = min maxMs n := by
  have hsize : UInt32.size = 4294967296 := rfl
  unfold clamp UInt32.ofNatClamp maxMs
  by_cases hfits : n < UInt32.size
  · rw [dif_pos hfits, UInt32.toNat_ofNatLT]
    omega
  · rw [dif_neg hfits, UInt32.toNat_ofNatLT]
    omega

theorem toNat_ms_le (span : Duration) : span.ms.toNat ≤ maxMs := by
  have hlt := span.ms.toNat_lt
  unfold maxMs
  omega

theorem isZero_iff (span : Duration) : span.isZero = true ↔ span.ms.toNat = 0 := by
  unfold isZero
  rw [beq_iff_eq, ← UInt32.toNat_inj]
  rfl

end Duration

namespace Instant

theorem toNat_clamp (n : Nat) : (clamp n).ms.toNat = min maxMs n := by
  have hsize : UInt64.size = 18446744073709551616 := rfl
  unfold clamp UInt64.ofNatClamp maxMs
  by_cases hfits : n < UInt64.size
  · rw [dif_pos hfits, UInt64.toNat_ofNatLT]
    omega
  · rw [dif_neg hfits, UInt64.toNat_ofNatLT]
    omega

theorem toNat_after (start : Instant) (span : Duration) :
    (start.after span).ms.toNat = min maxMs (start.ms.toNat + span.ms.toNat) :=
  toNat_clamp _

theorem toNat_remaining (deadline now : Instant) :
    (deadline.remaining now).ms.toNat =
      min Duration.maxMs (deadline.ms.toNat - now.ms.toNat) :=
  Duration.toNat_clamp _

theorem le_iff {first second : Instant} : first ≤ second ↔ first.ms.toNat ≤ second.ms.toNat :=
  Iff.rfl

/-- Nothing is left of a deadline exactly from that instant on. -/
theorem isZero_remaining {deadline now : Instant} :
    (deadline.remaining now).isZero = true ↔ deadline ≤ now := by
  rw [Duration.isZero_iff, toNat_remaining, le_iff, Duration.maxMs]
  omega

end Instant

namespace SteppedClock

/-- A clock that is set shows no earlier time. -/
theorem le_set (clock : SteppedClock) (instant : Instant) :
    clock.now ≤ (clock.set instant).now := by
  unfold set
  split
  · rename_i h
    exact Nat.le_of_lt h
  · exact Nat.le_refl _

end SteppedClock

end SecureElement
