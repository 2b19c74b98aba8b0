/-
  SecureElement.Proofs.Vault.Reach

  How far a command of the vault reaches.  A command names one slot by its number, or it is about all
  of them.  It commits to the records of the slots that it is about and to no others, and it leaves
  every other slot as it is; a command with a number that no slot has, or with an argument of the
  wrong length, reaches nothing at all.
-/
import SecureElement.Proofs.Vault.Outcome

namespace SecureElement

/-! ## What a command is about -/

namespace VaultCommand

/-- The number by which a command names its slot; the pass over all slots names none. -/
def named? : VaultCommand → Option UInt32
  | write raw _ _ | read raw _ _ | erase raw => some raw
  | eraseAll => none

/-- Whether a command is about a slot: it names that slot, or it is about all of them. -/
def concerns (index : SlotIndex) (command : VaultCommand) : Bool :=
  command.named?.all fun raw => raw.toNat = index.val

/-- The arguments have the length of a key and of a value. -/
def WellSized : VaultCommand → Prop
  | write _ key value => key.length = 16 ∧ value.length = 16
  | read _ key out => key.length = 16 ∧ out.length = 16
  | erase _ | eraseAll => True

/-- What the caller's buffer holds before the command, if the command has one. -/
def buffer : VaultCommand → Bytes
  | read _ _ out => out
  | write _ _ _ | erase _ | eraseAll => []

theorem concerns_of_named {command : VaultCommand} {raw : UInt32}
    (hnamed : command.named? = some raw) (index : SlotIndex) :
    command.concerns index = true ↔ raw.toNat = index.val := by
  rw [concerns, hnamed, Option.all_some, decide_eq_true_iff]

end VaultCommand

namespace Vault

/-! ## Commands that reach nothing -/

/-- A number that no slot has is refused; nothing is cut off it. -/
theorem ofRaw_of_misnamed {raw : UInt32} (h : slotCount ≤ raw.toNat) :
    SlotIndex.ofRaw raw = .error .unknownSlot := by
  rcases ofRaw_cases raw with ⟨index, hindex, -⟩ | ⟨-, hraw⟩
  · have hlt := index.isLt
    omega
  · exact hraw

theorem checked_of_misnamed {raw : UInt32} (h : slotCount ≤ raw.toNat) (first second : Bytes) :
    checked raw first second = .error .unknownSlot := by
  rw [checked, ofRaw_of_misnamed h]
  rfl

theorem failures_of_misnamed {μ : Type} (vault : Vault μ) {raw : UInt32}
    (h : slotCount ≤ raw.toNat) : vault.failures raw = .error .unknownSlot := by
  rw [failures, ofRaw_of_misnamed h]
  rfl

theorem checked_of_missized {raw : UInt32} (hraw : raw.toNat < slotCount) {first second : Bytes}
    (h : ¬ (first.length = 16 ∧ second.length = 16)) :
    checked raw first second = .error .wrongLength := by
  have hindex : SlotIndex.ofRaw raw = .ok ⟨raw.toNat, hraw⟩ := SlotIndex.ofRaw_eq_ok_iff.mpr rfl
  rcases argument_cases 16 first with ⟨a, rfl, ha⟩ | ⟨-, hfirst⟩
  · rcases argument_cases 16 second with ⟨b, rfl, -⟩ | ⟨-, hsecond⟩
    · exact absurd ⟨a.length_bytes, b.length_bytes⟩ h
    · rw [checked, hindex, ha, hsecond]
      rfl
  · rw [checked, hindex, hfirst]
    rfl

variable {μ : Type} [Medium μ]

/-- A number that no slot has is refused before anything else is looked at. -/
theorem execute_of_misnamed (vault : Vault μ) (now : Instant) {command : VaultCommand}
    {raw : UInt32} (hnamed : command.named? = some raw) (h : slotCount ≤ raw.toNat) :
    vault.execute now command =
      ({ result := .error .unknownSlot, out := command.buffer }, vault) := by
  cases command with
  | write _ key value =>
    cases hnamed
    rw [execute, write_eq, checked_of_misnamed h]
    rfl
  | read _ key out =>
    cases hnamed
    rw [execute, read_eq, checked_of_misnamed h]
    rfl
  | erase =>
    cases hnamed
    rw [execute, erase, ofRaw_of_misnamed h]
    rfl
  | eraseAll => cases hnamed

/-- An argument of the wrong length is refused before the slot is looked at. -/
theorem execute_of_missized (vault : Vault μ) (now : Instant) {command : VaultCommand}
    {raw : UInt32} (hnamed : command.named? = some raw) (hraw : raw.toNat < slotCount)
    (h : ¬ command.WellSized) :
    vault.execute now command =
      ({ result := .error .wrongLength, out := command.buffer }, vault) := by
  cases command with
  | write _ key value =>
    cases hnamed
    rw [execute, write_eq, checked_of_missized hraw h]
    rfl
  | read _ key out =>
    cases hnamed
    rw [execute, read_eq, checked_of_missized hraw h]
    rfl
  | erase | eraseAll => exact absurd trivial h

/-! ## The records that a command reaches -/

/-- What every save of a slot keeps of the medium, the pass over slots keeps. -/
theorem medium_eraseEach (holds : μ → Prop)
    (hsave : ∀ (index : SlotIndex) medium after, holds medium →
      Persistent.save medium index.record Slot.erased = .ok after → holds after)
    (indices : List SlotIndex) {vault : Vault μ} (h : holds vault.medium) :
    holds (eraseEach indices vault).2.medium := by
  induction indices generalizing vault with
  | nil => exact h
  | cons first rest ih =>
    rcases eraseSlot_cases vault first with ⟨after, hafter, heq⟩ | ⟨refusal, heq⟩
    · simp only [eraseEach, heq]
      exact ih (hsave first _ _ h hafter)
    · simp only [eraseEach, heq]
      exact h

/-- A command does nothing to the medium but save slots that it is about: what every such save keeps
of the medium, the command keeps. -/
theorem medium_execute (holds : μ → Prop) {command : VaultCommand}
    (hsave : ∀ index, command.concerns index = true → ∀ medium (next : Slot) after,
      holds medium → Persistent.save medium index.record next = .ok after → holds after)
    {vault : Vault μ} (h : holds vault.medium) (now : Instant) :
    holds (vault.execute now command).2.medium := by
  cases command with
  | write raw key value =>
    show holds (vault.write now raw key value).2.medium
    rcases write_cases vault now raw key value with
      ⟨index, slotKey, slotValue, after, hraw, -, -, hafter, heq⟩ | ⟨refusal, heq⟩
    · rw [heq]
      exact hsave index (decide_eq_true hraw) _ _ _ h hafter
    · rw [heq]
      exact h
  | read raw key out =>
    show holds (vault.read now raw key out).2.medium
    rcases read_cases vault now raw key out with ⟨index, slotKey, hraw, -, heq⟩ | ⟨refusal, -, heq⟩
    · obtain ⟨reading, hcase, hread⟩ := readSlot_cases vault now index slotKey
      rw [heq, hread]
      show holds reading.kept.medium
      cases hcase with
      | throttled | clean | notCleared | notRecorded => exact h
      | cleared _ after _ _ hafter | recorded after _ _ hafter =>
        exact hsave index (decide_eq_true hraw) _ _ _ h hafter
    · rw [heq]
      exact h
  | erase raw =>
    show holds (vault.erase now raw).2.medium
    rcases erase_cases vault now raw with ⟨index, after, hraw, hafter, heq⟩ | ⟨refusal, heq⟩
    · rw [heq]
      exact hsave index (decide_eq_true hraw) _ _ _ h hafter
    · rw [heq]
      exact h
  | eraseAll =>
    show holds (vault.eraseAll now).2.medium
    rw [(eraseAll_eq vault now).2.1]
    exact medium_eraseEach holds (fun index medium after => hsave index rfl medium .erased after)
      SlotIndex.all h

/-- A command leaves the image of every record as it is that is not the record of a slot it is
about. -/
theorem load_execute_of_ne [LawfulMedium μ] {command : VaultCommand} {id : RecordId}
    (hid : ∀ index, command.concerns index = true → id ≠ index.record) (vault : Vault μ)
    (now : Instant) (room : Nat) :
    Medium.load (vault.execute now command).2.medium id room =
      Medium.load vault.medium id room := by
  refine medium_execute (fun medium =>
    Medium.load medium id room = Medium.load vault.medium id room) ?_ rfl now
  intro index hconcerns medium next after h hafter
  rw [← h]
  exact LawfulMedium.load_commit_of_ne (Persistent.commit_of_save hafter).2 (hid index hconcerns)

/-- A command leaves every slot as it is that it is not about. -/
theorem slot_execute_of_not_concerns [CountedMedium μ] {command : VaultCommand} {index : SlotIndex}
    (h : command.concerns index = false) (vault : Vault μ) (now : Instant) :
    (vault.execute now command).2.slot index = vault.slot index := by
  let deed : VaultDeed μ := ⟨now, command, vault⟩
  have heffect := VaultDeed.effect deed index
  have houtcome : VaultDeed.outcome deed index = .nothing := by
    cases command with
    | write raw | read raw | erase raw =>
      have hraw : raw.toNat ≠ index.val := of_decide_eq_false h
      simp [VaultDeed.outcome, deed, hraw]
    | eraseAll => cases h
  rw [houtcome] at heffect
  exact heffect.eq_of_nothing

end Vault

end SecureElement
