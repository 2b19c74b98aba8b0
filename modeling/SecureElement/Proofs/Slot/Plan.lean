/-
  SecureElement.Proofs.Slot.Plan

  The read of a slot in plain terms.  The slot, the key, the instant and the schedule alone decide what
  a read comes to: `Slot.readPlan` says so case by case, in numbers and bytes.  A plan is settled without
  the medium, or it asks for one commit of one slot and says what holds if that succeeds.  Reading by way
  of buffers is this plan carried out, whatever the buffers held; there is no stale byte in them
  afterwards.
-/
import SecureElement.Proofs.Slot.Access

namespace SecureElement

/-! ## Plans -/

/-- A number of milliseconds in four bytes, most significant first, and twelve zeros. -/
def SlotValue.waiting (ms : Nat) : SlotValue :=
  ⟨[.ofNat (ms / 0x1000000), .ofNat (ms / 0x10000), .ofNat (ms / 0x100), .ofNat ms,
    0, 0, 0, 0, 0, 0, 0, 0, 0, 0, 0, 0], rfl⟩

/-- What a read comes to: its result and the two buffers. -/
inductive ReadPlan where
  /-- No commit is attempted. -/
  | settled (result : Except Refusal Grant) (response out : SlotValue)
  /-- A commit of `next` is attempted; the rest holds if it succeeds. -/
  | committing (next : Slot) (result : Except Refusal Grant) (response out : SlotValue)

/-- A plan carried out on a slot and its medium.  If the commit fails, the read fails for that error,
both buffers are zero, and the slot and the medium stay as they are. -/
def ReadPlan.carryOut {μ : Type} [Medium μ] (slot : Slot) (medium : μ) (index : SlotIndex) :
    ReadPlan → Slot.Reading μ
  | settled result response out => { result, kept := ⟨slot, medium⟩, response, out }
  | committing next result response out =>
    match Medium.commit medium index.record (Persistent.image next) with
    | .ok after => { result, kept := ⟨next, after⟩, response, out }
    | .error error =>
      { result := .error error.toRefusal, kept := ⟨slot, medium⟩, response := .zero 16,
        out := .zero 16 }

namespace Slot

/-- What reading a slot comes to. -/
def readPlan (slot : Slot) (candidate : SlotKey) (now : Instant) (schedule : BackoffSchedule) :
    ReadPlan :=
  if now.ms.toNat < slot.deadline.ms.toNat then
    let left := min (slot.deadline.ms.toNat - now.ms.toNat) 0xFFFFFFFF
    .settled (.error (.throttled ⟨.ofNat left⟩)) (.waiting left) (.waiting left)
  else if candidate.bytes ≠ slot.key.bytes then
    let failures := min (slot.failures.toNat + 1) 0x7FFF
    let backoff := schedule.backoff (.ofNat failures)
    let deadline := min (now.ms.toNat + backoff.ms.toNat) 0xFFFFFFFFFFFFFFFF
    .committing { slot with failures := .ofNat failures, deadline := ⟨.ofNat deadline⟩ }
      (.error (.wrongKey backoff)) (.waiting backoff.ms.toNat) (.waiting backoff.ms.toNat)
  else if slot.failures = 0 ∧ slot.deadline.ms = 0 then
    .settled (.ok .clean) (.zero 16) slot.value
  else
    .committing { slot with failures := 0, deadline := ⟨0⟩ }
      (.ok (if slot.failures = 0 then .clean else .afterFailures slot.failures)) (.zero 16)
      slot.value

end Slot

/-! ## Words as numbers -/

/-- The response to a backoff is its milliseconds and zeros. -/
theorem Duration.toResponse_eq (backoff : Duration) :
    backoff.toResponse = SlotValue.waiting backoff.ms.toNat := by
  have hbytes : Bytes.bigEndian 4 backoff.ms.toNat =
      [.ofNat (backoff.ms.toNat / 0x1000000), .ofNat (backoff.ms.toNat / 0x10000),
        .ofNat (backoff.ms.toNat / 0x100), .ofNat backoff.ms.toNat] := by
    simp [Bytes.bigEndian, Bytes.littleEndian, Nat.div_div_eq_div_mul]
  ext1
  show Bytes.bigEndian 4 backoff.ms.toNat ++ List.replicate 12 0 = _
  rw [hbytes]
  rfl

namespace Slot

variable {μ : Type} [Medium μ]

theorem toNat_remaining (slot : Slot) (now : Instant) :
    (slot.remaining now).ms.toNat =
      min (slot.deadline.ms.toNat - now.ms.toNat) 0xFFFFFFFF := by
  rw [Nat.min_comm]
  exact Instant.toNat_remaining _ _

theorem remaining_eq (slot : Slot) (now : Instant) :
    slot.remaining now =
      ⟨.ofNat (min (slot.deadline.ms.toNat - now.ms.toNat) 0xFFFFFFFF)⟩ := by
  ext1
  apply UInt32.toNat_inj.mp
  rw [toNat_remaining, UInt32.toNat_ofNat_of_lt']
  show _ < 2 ^ 32
  omega

/-- A wrong key counts once, up to the largest count, and the deadline follows by the backoff for the
new count, up to the last instant. -/
theorem penalised_eq (slot : Slot) (now : Instant) (schedule : BackoffSchedule) :
    let failures := UInt16.ofNat (min (slot.failures.toNat + 1) 0x7FFF)
    slot.penalised now schedule =
      { slot with
        failures
        deadline := ⟨.ofNat
          (min (now.ms.toNat + (schedule.backoff failures).ms.toNat) 0xFFFFFFFFFFFFFFFF)⟩ } := by
  intro failures
  have hfailures : (slot.penalised now schedule).failures = failures := by
    apply UInt16.toNat_inj.mp
    rw [toNat_failures_penalised, UInt16.toNat_ofNat_of_lt']
    · rfl
    · show _ < 2 ^ 16
      omega
  have hdeadline : (slot.penalised now schedule).deadline =
      now.after (schedule.backoff (slot.penalised now schedule).failures) := rfl
  refine Slot.ext rfl rfl hfailures ?_
  rw [hdeadline, hfailures]
  ext1
  apply UInt64.toNat_inj.mp
  rw [Instant.toNat_after, UInt64.toNat_ofNat_of_lt', Nat.min_comm]
  · rfl
  · show _ < 2 ^ 64
    omega

/-- Replacing a slot is one commit of its image. -/
theorem replace_eq (slot : Slot) (medium : μ) (index : SlotIndex) (next : Slot) :
    slot.replace medium index next =
      match Medium.commit medium index.record (Persistent.image next) with
      | .ok after => (.ok (), ⟨next, after⟩)
      | .error error => (.error error.toRefusal, ⟨slot, medium⟩) := by
  have hsave : Persistent.save medium index.record next =
      Medium.commit medium index.record (Persistent.image next) := if_neg (by decide)
  rw [replace, Draft.commit_revise, hsave]
  cases Medium.commit medium index.record (Persistent.image next) <;> rfl

/-! ## Readings -/

/-- A read is its plan carried out. -/
theorem read_eq_carryOut (slot : Slot) (medium : μ) (index : SlotIndex) (candidate : SlotKey)
    (now : Instant) (schedule : BackoffSchedule) :
    slot.read medium index candidate now schedule =
      (slot.readPlan candidate now schedule).carryOut slot medium index := by
  unfold read present readPlan
  by_cases hwait : now.ms.toNat < slot.deadline.ms.toNat
  · have hzero : ¬ (slot.remaining now).isZero = true := fun h =>
      Nat.not_le.mpr hwait (Instant.isZero_remaining.mp h)
    simp only [if_neg hzero, if_pos hwait, Duration.toResponse_eq, toNat_remaining,
      ← remaining_eq]
    rfl
  · have hzero : (slot.remaining now).isZero = true :=
      Instant.isZero_remaining.mpr (Nat.not_lt.mp hwait)
    simp only [if_pos hzero, if_neg hwait]
    by_cases hkey : slot.key = candidate
    · have hbytes : ¬ candidate.bytes ≠ slot.key.bytes :=
        not_not_intro (congrArg Block.bytes hkey.symm)
      simp only [if_pos hkey, if_neg hbytes, clearFailures, replace_eq]
      by_cases hclean : slot.failures = 0 ∧ slot.deadline = .zero
      · have hzeros : slot.failures = 0 ∧ slot.deadline.ms = 0 :=
          ⟨hclean.1, congrArg Instant.ms hclean.2⟩
        simp only [if_pos hclean, if_pos hzeros]
        rfl
      · have hcounted : ¬ (slot.failures = 0 ∧ slot.deadline.ms = 0) := fun h =>
          hclean ⟨h.1, Instant.ext h.2⟩
        simp only [if_neg hclean, if_neg hcounted, ReadPlan.carryOut]
        show _ = match Medium.commit medium index.record (Persistent.image slot.cleared) with
          | .ok after => _
          | .error error => _
        cases Medium.commit medium index.record (Persistent.image slot.cleared) <;> rfl
    · have hbytes : candidate.bytes ≠ slot.key.bytes := fun h => hkey (Block.ext h).symm
      simp only [if_neg hkey, if_pos hbytes, recordFailure, replace_eq, penalised_eq,
        Duration.toResponse_eq, ReadPlan.carryOut]
      generalize Medium.commit medium index.record _ = answer
      cases answer <;> rfl

/-- Presenting a wrong key is never granted. -/
theorem isOk_recordFailure (slot : Slot) (medium : μ) (index : SlotIndex) (now : Instant)
    (schedule : BackoffSchedule) (scratch : SlotValue) :
    (slot.recordFailure medium index now schedule scratch).result.isOk = false := by
  unfold recordFailure
  dsimp only
  split <;> rfl

/-- Reading by way of buffers comes to the same as reading without, whatever the buffers held. -/
theorem readInto_eq_read (slot : Slot) (medium : μ) (index : SlotIndex) (candidate : SlotKey)
    (now : Instant) (schedule : BackoffSchedule) (scratch out : SlotValue) :
    slot.readInto medium index candidate now schedule scratch out =
      slot.read medium index candidate now schedule := by
  unfold readInto read present
  simp only [Block.copyFrom_eq, Block.wipe_eq]
  by_cases hzero : (slot.remaining now).isZero = true
  · simp only [if_pos hzero]
    by_cases hkey : slot.key = candidate
    · simp only [decide_eq_true hkey, if_pos hkey, if_true, Bool.true_and]
    · have hrefused := isOk_recordFailure slot medium index now schedule (.zero 16)
      simp only [decide_eq_false hkey, if_neg hkey, Bool.false_and, hrefused]
      rfl
  · simp only [if_neg hzero]
    rfl

/-- Reads go as planned.  For every slot, medium, key, instant and schedule, be it valid or not, and
whatever the two buffers held: the result, the slot and the medium afterwards and every byte of both
buffers are what the plan says, with one commit of the planned slot or none.  Reading without buffers
comes to the same.  Unless the slot was throttled or a wrong key was recorded, there is nothing but zeros
in the buffer for the response. -/
theorem readInto_as_planned (slot : Slot) (medium : μ) (index : SlotIndex) (candidate : SlotKey)
    (now : Instant) (schedule : BackoffSchedule) (scratch out : SlotValue) :
    let reading := slot.readInto medium index candidate now schedule scratch out
    reading = (slot.readPlan candidate now schedule).carryOut slot medium index ∧
      reading = slot.read medium index candidate now schedule ∧
      (now < slot.deadline ∨ (∃ backoff, reading.result = .error (.wrongKey backoff)) ∨
        reading.response = .zero 16) := by
  intro reading
  have hread : reading = slot.read medium index candidate now schedule :=
    readInto_eq_read slot medium index candidate now schedule scratch out
  refine ⟨hread.trans (read_eq_carryOut slot medium index candidate now schedule), hread, ?_⟩
  have hcase := read_readCase slot medium index candidate now schedule
  rw [← hread] at hcase
  generalize reading = ended at hcase ⊢
  cases hcase with
  | throttled hwait => exact Or.inl hwait
  | recorded => exact Or.inr (Or.inl ⟨_, rfl⟩)
  | clean | cleared | notCleared | notRecorded => exact Or.inr (Or.inr rfl)

end Slot

end SecureElement
