/-
  SecureElement.Proofs.Boot.Session

  The measured boot and the scratchpad as components with sessions.  Both keep one record, and every
  value of theirs can be stored and read back, so what they have in memory is always what their
  medium has.
-/
import SecureElement.Boot.Scratchpad
import SecureElement.Proofs.Boot.Transition
import SecureElement.Proofs.Record.Keeper
import SecureElement.Proofs.Record.Payload

namespace SecureElement

/-- What a component of the boot is opened with: its record, and what its journal keeps. -/
structure BootOpening where
  id : RecordId
  least : Severity := .standard

/-! ## The measured boot -/

namespace MeasuredBoot

variable {μ : Type} [Medium μ]

/-- The state in memory is the one that the medium has. -/
def Synced (boot : MeasuredBoot μ) : Prop :=
  boot.cell.Synced BootState.initial

theorem restore_eq (medium : μ) (id : RecordId) (least : Severity) :
    restore medium id least = (RecordCell.restore medium id BootState.initial).map fun cell =>
      ⟨cell, .create "bootreg" least⟩ := by
  rw [restore]
  cases RecordCell.restore medium id BootState.initial <;> rfl

/-- The measured boot that is restored has the state that the medium has. -/
theorem of_restore {medium : μ} {id : RecordId} {least : Severity} {boot : MeasuredBoot μ}
    (h : restore medium id least = .ok boot) : boot.cell.medium = medium ∧ boot.Synced := by
  rw [restore_eq] at h
  obtain ⟨cell, rfl, hmedium, hsynced⟩ := RecordCell.of_map_restore h
  exact ⟨hmedium, hsynced⟩

/-- A command is carried out with one commit or none, or it is refused without any. -/
theorem attempted_execute (boot : MeasuredBoot μ) (command : BootCommand) :
    boot.cell.Attempted (boot.execute command).1 (boot.execute command).2.cell := by
  rcases boot.execute_cases command with
    ⟨change, reply, -, hok, hcommitted⟩ | ⟨refusal, herror, hcell⟩
  · rw [hok]
    exact .carriedOut reply change _ hcommitted
  · rw [herror, hcell]
    exact .refused refusal

theorem synced_execute [LawfulMedium μ] {boot : MeasuredBoot μ} (h : boot.Synced)
    (command : BootCommand) : (boot.execute command).2.Synced :=
  RecordCell.synced_attempted h (boot.attempted_execute command) BootState.decode_encode

end MeasuredBoot

instance : Component MeasuredBoot BootOpening BootCommand (Except Refusal (Option Digest)) where
  medium boot := boot.cell.medium
  onMedium boot medium := { boot with cell := { boot.cell with medium } }
  restore medium _ opening := MeasuredBoot.restore medium opening.id opening.least
  execute boot _ command := boot.execute command
  Synced := MeasuredBoot.Synced
  medium_onMedium _ _ := rfl
  of_restore := MeasuredBoot.of_restore
  synced_execute h _ command := MeasuredBoot.synced_execute h command
  synced_befall h accident := RecordCell.synced_befall h accident

instance : RecordKeeper MeasuredBoot BootState BootOpening BootCommand (Option Digest) where
  cell := MeasuredBoot.cell
  initial := BootState.initial
  record := BootOpening.id
  opened opening cell := ⟨cell, .create "bootreg" opening.least⟩
  medium_eq _ := rfl
  synced_iff _ := Iff.rfl
  cell_opened _ _ := rfl
  restore_eq medium _ opening := MeasuredBoot.restore_eq medium opening.id opening.least
  attempted_execute boot _ command := boot.attempted_execute command

abbrev BootDeed :=
  Deed MeasuredBoot BootCommand

abbrev BootStep (μ : Type) [Medium μ] :=
  SessionStep BootOpening BootCommand μ

abbrev BootSession :=
  Session MeasuredBoot BootCommand

/-! ## The scratchpad -/

/-- A command to write bytes into the scratchpad. -/
structure ScratchOrder where
  caller : Caller
  offset : UInt16
  data : Bytes
deriving DecidableEq

namespace Scratchpad

variable {μ : Type} [Medium μ]

/-- The contents in memory are the ones that the medium has. -/
def Synced (pad : Scratchpad μ) : Prop :=
  pad.cell.Synced ScratchImage.initial

theorem restore_eq (medium : μ) (id : RecordId) (least : Severity) :
    restore medium id least = (RecordCell.restore medium id ScratchImage.initial).map fun cell =>
      ⟨cell, .create "bootstore" least⟩ := by
  rw [restore]
  cases RecordCell.restore medium id ScratchImage.initial <;> rfl

theorem of_restore {medium : μ} {id : RecordId} {least : Severity} {pad : Scratchpad μ}
    (h : restore medium id least = .ok pad) : pad.cell.medium = medium ∧ pad.Synced := by
  rw [restore_eq] at h
  obtain ⟨cell, rfl, hmedium, hsynced⟩ := RecordCell.of_map_restore h
  exact ⟨hmedium, hsynced⟩

/-- A write that is planned is committed, or the scratchpad stays as it is. -/
theorem change_cases (pad : Scratchpad μ) (caller : Caller) (offset : UInt16) (data : Bytes) :
    (∃ next medium, planStore pad.image caller offset data = .ok next ∧
      Persistent.save pad.cell.medium pad.cell.id next = .ok medium ∧
      pad.change caller offset data = (.ok (), { pad with cell := ⟨medium, pad.cell.id, next⟩ })) ∨
    (∃ refusal, pad.change caller offset data = (.error refusal, pad)) := by
  unfold change
  cases hplan : planStore pad.image caller offset data with
  | error refusal => exact Or.inr ⟨refusal, rfl⟩
  | ok next =>
    rcases pad.cell.replace_cases next with ⟨medium, hsave, heq⟩ | ⟨error, -, heq⟩
    · refine Or.inl ⟨next, medium, rfl, hsave, ?_⟩
      simp only [heq]
    · refine Or.inr ⟨error.toRefusal, ?_⟩
      simp only [heq]

/-- A write is carried out with one commit, or it is refused without any. -/
theorem attempted_store (pad : Scratchpad μ) (caller : Caller) (offset : UInt16) (data : Bytes) :
    pad.cell.Attempted (pad.store caller offset data).1 (pad.store caller offset data).2.cell := by
  unfold store
  rcases pad.change_cases caller offset data with ⟨next, medium, -, hsave, heq⟩ | ⟨refusal, heq⟩
  · rw [heq]
    exact .carriedOut () (some next) _ (.saved next medium hsave)
  · rw [heq]
    exact .refused refusal

theorem synced_store [LawfulMedium μ] {pad : Scratchpad μ} (h : pad.Synced) (caller : Caller)
    (offset : UInt16) (data : Bytes) : (pad.store caller offset data).2.Synced :=
  RecordCell.synced_attempted h (pad.attempted_store caller offset data) ScratchImage.decode_encode

end Scratchpad

instance : Component Scratchpad BootOpening ScratchOrder (Except Refusal Unit) where
  medium pad := pad.cell.medium
  onMedium pad medium := { pad with cell := { pad.cell with medium } }
  restore medium _ opening := Scratchpad.restore medium opening.id opening.least
  execute pad _ order := pad.store order.caller order.offset order.data
  Synced := Scratchpad.Synced
  medium_onMedium _ _ := rfl
  of_restore := Scratchpad.of_restore
  synced_execute h _ order := Scratchpad.synced_store h order.caller order.offset order.data
  synced_befall h accident := RecordCell.synced_befall h accident

instance : RecordKeeper Scratchpad ScratchImage BootOpening ScratchOrder Unit where
  cell := Scratchpad.cell
  initial := ScratchImage.initial
  record := BootOpening.id
  opened opening cell := ⟨cell, .create "bootstore" opening.least⟩
  medium_eq _ := rfl
  synced_iff _ := Iff.rfl
  cell_opened _ _ := rfl
  restore_eq medium _ opening := Scratchpad.restore_eq medium opening.id opening.least
  attempted_execute pad _ order := pad.attempted_store order.caller order.offset order.data

abbrev ScratchStep (μ : Type) [Medium μ] :=
  SessionStep BootOpening ScratchOrder μ

abbrev ScratchSession :=
  Session Scratchpad ScratchOrder

end SecureElement
