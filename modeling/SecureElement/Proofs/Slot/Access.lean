/-
  SecureElement.Proofs.Slot.Access

  What an operation on a slot can come to.  `Slot.replace` either saves the new slot and keeps it,
  or changes nothing.  `Slot.ReadCase` lists the six ways in which a read can end; `read_readCase`
  says that there is no other.
-/
import SecureElement.Proofs.Record.Payload
import SecureElement.Proofs.Record.Recovery
import SecureElement.Proofs.Time.Deadline
import SecureElement.Slot.Access

namespace SecureElement

namespace Slot

variable {μ : Type} [Medium μ]

/-! ## The slot that a medium has -/

/-- The slot that a medium has; an erased one if none was ever committed. -/
def recovered (medium : μ) (index : SlotIndex) : Except MediumError Slot :=
  Persistent.recovered erased medium index.record

theorem recovered_of_load {medium : μ} {index : SlotIndex} {found : Option Slot}
    (h : load medium index = .ok found) : recovered medium index = .ok (found.getD erased) := by
  unfold load at h
  rw [recovered, Persistent.recovered]
  cases hload : Persistent.load Slot medium index.record with
  | error error =>
    rw [hload] at h
    cases h
  | ok value =>
    rw [hload] at h
    cases h
    rfl

/-! ## Replacing a slot -/

/-- A slot is replaced exactly if the new one is saved. -/
theorem replace_cases (slot : Slot) (medium : μ) (index : SlotIndex) (next : Slot) :
    (∃ after, Persistent.save medium index.record next = .ok after ∧
      slot.replace medium index next = (.ok (), ⟨next, after⟩)) ∨
    (∃ error, Persistent.save medium index.record next = .error error ∧
      slot.replace medium index next = (.error error.toRefusal, ⟨slot, medium⟩)) := by
  unfold replace
  rw [Draft.commit_revise]
  cases hsave : Persistent.save medium index.record next with
  | ok after => exact Or.inl ⟨after, rfl, rfl⟩
  | error error => exact Or.inr ⟨error, rfl, rfl⟩

/-! ## Reading a slot -/

/-- The failure count goes up by one for a wrong key, until it is at its largest. -/
theorem toNat_failures_penalised (slot : Slot) (now : Instant) (schedule : BackoffSchedule) :
    (slot.penalised now schedule).failures.toNat =
      min (slot.failures.toNat + 1) maxFailures.toNat := by
  have hmax : maxFailures.toNat = 32767 := rfl
  have hone : (1 : UInt16).toNat = 1 := rfl
  show (if slot.failures < maxFailures then slot.failures + 1 else maxFailures).toNat = _
  by_cases hlt : slot.failures < maxFailures
  · have hltNat : slot.failures.toNat < maxFailures.toNat := hlt
    -- below the largest count the sum does not wrap around
    rw [if_pos hlt, UInt16.toNat_add, hone]
    omega
  · have hltNat : ¬ slot.failures.toNat < maxFailures.toNat := hlt
    rw [if_neg hlt]
    omega

theorem failures_penalised_le (slot : Slot) (now : Instant) (schedule : BackoffSchedule) :
    (slot.penalised now schedule).failures ≤ maxFailures := by
  have hcount := toNat_failures_penalised slot now schedule
  show (slot.penalised now schedule).failures.toNat ≤ maxFailures.toNat
  omega

/-- A read that does not release the value: the caller gets the response. -/
def Reading.withheld (result : Refusal) (kept : Kept μ) (response : SlotValue) : Reading μ :=
  { result := .error result, kept, response, out := response }

def Reading.released (grant : Grant) (kept : Kept μ) (value : SlotValue) : Reading μ :=
  { result := .ok grant, kept, response := .zero 16, out := value }

/-- How the read of a slot can end. -/
inductive ReadCase (slot : Slot) (medium : μ) (index : SlotIndex) (candidate : SlotKey)
    (now : Instant) (schedule : BackoffSchedule) : Reading μ → Prop where
  | throttled (hwait : now < slot.deadline) :
      ReadCase slot medium index candidate now schedule
        (.withheld (.throttled (slot.remaining now)) ⟨slot, medium⟩
          (slot.remaining now).toResponse)
  /-- The key is right, and there is nothing to clear. -/
  | clean (hopen : slot.deadline ≤ now) (hkey : slot.key = candidate)
      (hclean : slot.failures = 0 ∧ slot.deadline = .zero) :
      ReadCase slot medium index candidate now schedule
        (.released .clean ⟨slot, medium⟩ slot.value)
  /-- The key is right, and the throttling was cleared. -/
  | cleared (grant : Grant) (after : μ) (hopen : slot.deadline ≤ now) (hkey : slot.key = candidate)
      (hsave : Persistent.save medium index.record slot.cleared = .ok after) :
      ReadCase slot medium index candidate now schedule
        (.released grant ⟨slot.cleared, after⟩ slot.value)
  /-- The key is right, but the throttling could not be cleared. -/
  | notCleared (error : MediumError) (hopen : slot.deadline ≤ now) (hkey : slot.key = candidate)
      (hsave : Persistent.save medium index.record slot.cleared = .error error) :
      ReadCase slot medium index candidate now schedule
        (.withheld error.toRefusal ⟨slot, medium⟩ (.zero 16))
  /-- The key is wrong, and that was recorded. -/
  | recorded (after : μ) (hopen : slot.deadline ≤ now) (hkey : slot.key ≠ candidate)
      (hsave : Persistent.save medium index.record (slot.penalised now schedule) = .ok after) :
      ReadCase slot medium index candidate now schedule
        (.withheld (.wrongKey (schedule.backoff (slot.penalised now schedule).failures))
          ⟨slot.penalised now schedule, after⟩
          (schedule.backoff (slot.penalised now schedule).failures).toResponse)
  /-- The key is wrong, but that could not be recorded. -/
  | notRecorded (error : MediumError) (hopen : slot.deadline ≤ now) (hkey : slot.key ≠ candidate)
      (hsave : Persistent.save medium index.record (slot.penalised now schedule) = .error error) :
      ReadCase slot medium index candidate now schedule
        (.withheld error.toRefusal ⟨slot, medium⟩ (.zero 16))

/-- Every read ends in one of these ways. -/
theorem read_readCase (slot : Slot) (medium : μ) (index : SlotIndex) (candidate : SlotKey)
    (now : Instant) (schedule : BackoffSchedule) :
    ReadCase slot medium index candidate now schedule
      (slot.read medium index candidate now schedule) := by
  unfold read present
  by_cases hopen : slot.deadline ≤ now
  · -- the slot is open exactly if no time is left
    have hzero : (slot.remaining now).isZero = true := Instant.isZero_remaining.mpr hopen
    simp only [if_pos hzero]
    by_cases hkey : slot.key = candidate
    · simp only [if_pos hkey]
      unfold clearFailures
      -- a slot without failures is not committed again
      by_cases hclean : slot.failures = 0 ∧ slot.deadline = .zero
      · simp only [if_pos hclean]
        exact .clean hopen hkey hclean
      · simp only [if_neg hclean]
        rcases replace_cases slot medium index slot.cleared with
          ⟨after, hsave, heq⟩ | ⟨error, hsave, heq⟩
        · simp only [heq]
          exact .cleared _ after hopen hkey hsave
        · simp only [heq]
          exact .notCleared error hopen hkey hsave
    · simp only [if_neg hkey]
      unfold recordFailure
      rcases replace_cases slot medium index (slot.penalised now schedule) with
        ⟨after, hsave, heq⟩ | ⟨error, hsave, heq⟩
      · simp only [heq]
        exact .recorded after hopen hkey hsave
      · simp only [heq]
        exact .notRecorded error hopen hkey hsave
  · have hzero : ¬ (slot.remaining now).isZero = true := fun h =>
      hopen (Instant.isZero_remaining.mp h)
    simp only [if_neg hzero]
    exact .throttled (UInt64.not_le.mp hopen)

end Slot

end SecureElement
