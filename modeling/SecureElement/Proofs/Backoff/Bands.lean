/-
  SecureElement.Proofs.Backoff.Bands

  The bands of a valid schedule over unbounded numbers.  A schedule limits the number of doublings to
  32 and computes in words, but neither can be seen in a backoff: a word of 32 bits that is doubled 32
  times still fits into 64 bits, and unless it is zero it is past every ceiling by then.  So each band
  is as long as its formula says, and a backoff never gets shorter with more failures.
-/
import Mathlib.Algebra.Group.Nat.Defs
import SecureElement.Proofs.Backoff.Schedule

namespace SecureElement

namespace BackoffSchedule

variable {schedule : BackoffSchedule}

/-- A schedule passes validation exactly if it is valid. -/
theorem validate_eq_ok_iff : schedule.validate = .ok () ↔ schedule.Valid := by
  unfold validate
  by_cases hvalid : schedule.Valid
  · rw [if_pos hvalid]
    exact iff_of_true rfl hvalid
  · rw [if_neg hvalid]
    exact iff_of_false nofun hvalid

/-! ## Unbounded numbers -/

/-- The backoff in milliseconds after a number of failures, with doublings without a limit. -/
def unbounded (schedule : BackoffSchedule) (failures : Nat) : Nat :=
  if failures < schedule.flatFrom.toNat then
    0
  else if failures < schedule.doublingFrom.toNat then
    schedule.flat.ms.toNat
  else if failures < schedule.ceilingFrom.toNat then
    min schedule.ceiling.ms.toNat (schedule.flat.ms.toNat *
      2 ^ ((failures - schedule.doublingFrom.toNat) / schedule.doublingEvery.toNat))
  else
    schedule.ceiling.ms.toNat

/-- Below a ceiling of 32 bits it makes no difference to stop after 32 doublings. -/
theorem min_mul_two_pow_min {ceiling : Nat} (hceiling : ceiling < 2 ^ 32) (flat doublings : Nat) :
    min (flat * 2 ^ min doublings 32) ceiling = min ceiling (flat * 2 ^ doublings) := by
  rw [Nat.min_comm ceiling]
  by_cases hfew : doublings ≤ 32
  · rw [Nat.min_eq_left hfew]
  · have hmany : 32 ≤ doublings := Nat.le_of_not_le hfew
    rw [Nat.min_eq_right hmany]
    cases flat with
    | zero => rw [Nat.zero_mul, Nat.zero_mul]
    | succ flat =>
      -- both products have reached the ceiling
      have hpow : 2 ^ 32 ≤ 2 ^ doublings := Nat.pow_le_pow_right Nat.two_pos hmany
      have hlimited : ceiling ≤ (flat + 1) * 2 ^ 32 :=
        Nat.le_trans (Nat.le_of_lt hceiling) (Nat.le_mul_of_pos_left _ (Nat.succ_pos flat))
      have hunlimited : ceiling ≤ (flat + 1) * 2 ^ doublings :=
        Nat.le_trans hlimited (Nat.mul_le_mul_left _ hpow)
      rw [Nat.min_eq_right hlimited, Nat.min_eq_right hunlimited]

/-- The number of doublings is the quotient, up to 32 of them. -/
theorem toNat_doublings (hvalid : schedule.Valid) {failures : UInt16}
    (hstart : schedule.doublingFrom ≤ failures) :
    (schedule.doublings failures).toNat =
      min ((failures.toNat - schedule.doublingFrom.toNat) / schedule.doublingEvery.toNat) 32 := by
  have hevery : max schedule.doublingEvery 1 = schedule.doublingEvery := by
    have hpos : schedule.doublingEvery.toNat ≠ 0 := fun hzero =>
      hvalid.doublingEvery_ne_zero (UInt16.toNat_inj.mp hzero)
    show (if schedule.doublingEvery ≤ 1 then 1 else schedule.doublingEvery) = _
    split
    · rename_i hle
      have hle : schedule.doublingEvery.toNat ≤ 1 := hle
      apply UInt16.toNat_inj.mp
      show 1 = schedule.doublingEvery.toNat
      omega
    · rfl
  rw [doublings, hevery, ← UInt16.toNat_sub_of_le _ _ hstart, ← UInt16.toNat_div]
  generalize (failures - schedule.doublingFrom) / schedule.doublingEvery = quotient
  show (if quotient ≤ 32 then quotient else 32).toNat = _
  split
  · rename_i hle
    exact (Nat.min_eq_left hle).symm
  · rename_i hlt
    exact (Nat.min_eq_right (Nat.le_of_not_le hlt)).symm

/-- A duration that is doubled at most 32 times does not overflow. -/
theorem toNat_shiftLeft (flat : UInt32) {doublings : UInt16} (hlimit : doublings.toNat ≤ 32) :
    (flat.toUInt64 <<< doublings.toUInt64).toNat = flat.toNat * 2 ^ doublings.toNat := by
  have hflat := flat.toNat_lt
  have hpow : 2 ^ doublings.toNat ≤ 2 ^ 32 := Nat.pow_le_pow_right Nat.two_pos hlimit
  have hfits : flat.toNat * 2 ^ doublings.toNat < 2 ^ 64 :=
    calc flat.toNat * 2 ^ doublings.toNat
      _ ≤ flat.toNat * 2 ^ 32 := Nat.mul_le_mul_left _ hpow
      _ < 2 ^ 32 * 2 ^ 32 := Nat.mul_lt_mul_of_pos_right hflat (Nat.two_pow_pos 32)
      _ = 2 ^ 64 := by decide
  have hshift : doublings.toNat % 64 = doublings.toNat := Nat.mod_eq_of_lt (by omega)
  rw [UInt64.toNat_shiftLeft, UInt32.toNat_toUInt64, UInt16.toNat_toUInt64, hshift,
    Nat.shiftLeft_eq, Nat.mod_eq_of_lt hfits]

/-- The backoff of a valid schedule is the one over unbounded numbers. -/
theorem toNat_backoff_eq_unbounded (hvalid : schedule.Valid) (failures : UInt16) :
    (schedule.backoff failures).ms.toNat = schedule.unbounded failures.toNat := by
  have hflat : schedule.flat.ms.toNat ≤ schedule.ceiling.ms.toNat := hvalid.flat_le
  have hfirst : schedule.flatFrom.toNat ≠ 0 := fun hzero =>
    hvalid.flatFrom_ne_zero (UInt16.toNat_inj.mp hzero)
  rw [toNat_backoff, uncut, unbounded]
  by_cases hfree : failures.toNat < schedule.flatFrom.toNat
  · have hcounted : failures = 0 ∨ failures < schedule.flatFrom := Or.inr hfree
    rw [if_pos hcounted, if_pos hfree]
    exact Nat.zero_min _
  · have hcounted : ¬ (failures = 0 ∨ failures < schedule.flatFrom) := by
      rintro (rfl | hlt)
      · exact hfree (Nat.pos_of_ne_zero hfirst)
      · exact hfree hlt
    rw [if_neg hcounted, if_neg hfree]
    by_cases hsteady : failures.toNat < schedule.doublingFrom.toNat
    · rw [if_pos (show failures < schedule.doublingFrom from hsteady), if_pos hsteady,
        UInt32.toNat_toUInt64]
      exact Nat.min_eq_left hflat
    · rw [if_neg (show ¬ failures < schedule.doublingFrom from hsteady), if_neg hsteady]
      by_cases hgrowing : failures.toNat < schedule.ceilingFrom.toNat
      · have hdoublings := toNat_doublings hvalid (Nat.le_of_not_lt hsteady)
        have hlimit : (schedule.doublings failures).toNat ≤ 32 := by omega
        rw [if_pos (show failures < schedule.ceilingFrom from hgrowing), if_pos hgrowing,
          toNat_shiftLeft _ hlimit, hdoublings]
        exact min_mul_two_pow_min schedule.ceiling.ms.toNat_lt _ _
      · rw [if_neg (show ¬ failures < schedule.ceilingFrom from hgrowing), if_neg hgrowing,
          UInt32.toNat_toUInt64]
        exact Nat.min_self _

/-! ## Bands -/

/-- Over unbounded numbers a backoff never gets shorter with more failures. -/
theorem unbounded_mono (hvalid : schedule.Valid) {failures later : Nat} (hle : failures ≤ later) :
    schedule.unbounded failures ≤ schedule.unbounded later := by
  have hflat : schedule.flat.ms.toNat ≤ schedule.ceiling.ms.toNat := hvalid.flat_le
  have hstart : schedule.flatFrom.toNat ≤ schedule.doublingFrom.toNat := hvalid.flatFrom_le
  have hend : schedule.doublingFrom.toNat ≤ schedule.ceilingFrom.toNat := hvalid.doublingFrom_le
  have hgrowing : schedule.flat.ms.toNat *
      2 ^ ((failures - schedule.doublingFrom.toNat) / schedule.doublingEvery.toNat) ≤
      schedule.flat.ms.toNat *
        2 ^ ((later - schedule.doublingFrom.toNat) / schedule.doublingEvery.toNat) :=
    Nat.mul_le_mul_left _ (Nat.pow_le_pow_right Nat.two_pos
      (Nat.div_le_div_right (Nat.sub_le_sub_right hle _)))
  have hdoubled : schedule.flat.ms.toNat ≤ schedule.flat.ms.toNat *
      2 ^ ((later - schedule.doublingFrom.toNat) / schedule.doublingEvery.toNat) :=
    Nat.le_mul_of_pos_right _ (Nat.two_pow_pos _)
  unfold unbounded
  generalize schedule.flat.ms.toNat *
    2 ^ ((failures - schedule.doublingFrom.toNat) / schedule.doublingEvery.toNat) = grown at *
  generalize schedule.flat.ms.toNat *
    2 ^ ((later - schedule.doublingFrom.toNat) / schedule.doublingEvery.toNat) = grownLater at *
  -- the later count is in the same band or in one further on
  repeat' split
  all_goals omega

/-- The bands of a schedule.  Under every schedule that passes validation, no backoff is longer than
the ceiling and more failures never make one shorter.  It is zero while attempts are free, then flat,
then doubled as often as the schedule says, over unbounded numbers and cut to the ceiling only, and at
last the ceiling. -/
theorem backoff_bands (hvalidated : schedule.validate = .ok ()) :
    (∀ failures later : UInt16, failures ≤ later →
      schedule.backoff failures ≤ schedule.backoff later ∧
        schedule.backoff later ≤ schedule.ceiling) ∧
    ∀ failures : UInt16,
      let ms := (schedule.backoff failures).ms.toNat
      (failures < schedule.flatFrom → ms = 0) ∧
      (schedule.flatFrom ≤ failures → failures < schedule.doublingFrom →
        ms = schedule.flat.ms.toNat) ∧
      (schedule.doublingFrom ≤ failures → failures < schedule.ceilingFrom →
        ms = min schedule.ceiling.ms.toNat (schedule.flat.ms.toNat *
          2 ^ ((failures.toNat - schedule.doublingFrom.toNat) / schedule.doublingEvery.toNat))) ∧
      (schedule.ceilingFrom ≤ failures → ms = schedule.ceiling.ms.toNat) := by
  have hvalid := validate_eq_ok_iff.mp hvalidated
  have hstart : schedule.flatFrom.toNat ≤ schedule.doublingFrom.toNat := hvalid.flatFrom_le
  have hend : schedule.doublingFrom.toNat ≤ schedule.ceilingFrom.toNat := hvalid.doublingFrom_le
  constructor
  · intro failures later hle
    refine ⟨?_, backoff_le_ceiling schedule later⟩
    show (schedule.backoff failures).ms.toNat ≤ (schedule.backoff later).ms.toNat
    rw [toNat_backoff_eq_unbounded hvalid, toNat_backoff_eq_unbounded hvalid]
    exact unbounded_mono hvalid hle
  · intro failures ms
    have hms : ms = schedule.unbounded failures.toNat := toNat_backoff_eq_unbounded hvalid failures
    rw [hms]
    simp only [UInt16.lt_iff_toNat_lt, UInt16.le_iff_toNat_le]
    refine ⟨fun hfree => ?_, fun hflat hlt => ?_, fun hdoubling hlt => ?_, fun hceiling => ?_⟩
    · exact if_pos hfree
    · rw [unbounded, if_neg (by omega), if_pos hlt]
    · rw [unbounded, if_neg (by omega), if_neg (by omega), if_pos hlt]
    · rw [unbounded, if_neg (by omega), if_neg (by omega), if_neg (by omega)]

/-- A schedule without a flat band that doubles with every failure, from one millisecond on. -/
def steep : BackoffSchedule :=
  { flatFrom := 1, flat := ⟨1⟩, doublingFrom := 1, doublingEvery := 1, ceilingFrom := 0xFFFF,
    ceiling := ⟨0xFFFFFFFF⟩ }

/-- The steep schedule doubles 31 times without a loss; after 39 doublings it is at its ceiling, and it
stays there. -/
theorem backoff_bands_steep :
    steep.validate = .ok () ∧ (steep.backoff 32).ms.toNat = 2 ^ 31 ∧
      (steep.backoff 40).ms.toNat = 0xFFFFFFFF ∧ steep.backoff 32 ≤ steep.backoff 40 ∧
      steep.backoff 40 ≤ steep.backoff 0xFFFF := by
  have hvalidated : steep.validate = .ok () := rfl
  obtain ⟨hmono, hbands⟩ := backoff_bands hvalidated
  obtain ⟨-, -, hgrown, -⟩ := hbands 32
  obtain ⟨-, -, hcut, -⟩ := hbands 40
  exact ⟨hvalidated, hgrown (by decide) (by decide), hcut (by decide) (by decide),
    (hmono 32 40 (by decide)).1, (hmono 40 0xFFFF (by decide)).1⟩

end BackoffSchedule

end SecureElement
