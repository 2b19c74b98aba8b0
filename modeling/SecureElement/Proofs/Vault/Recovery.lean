/-
  SecureElement.Proofs.Vault.Recovery

  What a restart brings back.  A medium whose slot records can all be read restores to a vault with
  exactly those slots.  Since an open vault is always in step with its medium, dropping it at any
  point, also after a command that failed or an erasure that stopped half way, and opening it again
  brings back the same slots: their keys, values, failure counts and deadlines.
-/
import Mathlib.Tactic.Choose
import SecureElement.Proofs.Vault.Outcome

namespace SecureElement

/-! ## Restoring what a medium has -/

section

variable {μ : Type} [Medium μ]

namespace Slot

/-- A slot that a medium has can be loaded; one that was never committed is erased. -/
theorem load_of_recovered {medium : μ} {index : SlotIndex} {slot : Slot}
    (h : recovered medium index = .ok slot) :
    ∃ found, Persistent.load Slot medium index.record = .ok found ∧ found.getD erased = slot :=
  Persistent.load_of_recovered h

end Slot

namespace Vault

/-- If every slot can be loaded, all slots are found. -/
theorem found_eq_ok {medium : μ} {found : SlotIndex → Option Slot}
    (h : ∀ index : SlotIndex, Persistent.load Slot medium index.record = .ok (found index)) :
    Vault.found medium = .ok (Vector.ofFn found) := by
  have hload : (fun index : SlotIndex => Slot.load medium index) =
      fun index => pure (found index) := by
    funext index
    rw [Slot.load, h index]
    rfl
  rw [Vault.found, hload]
  exact Vector.ofFnM_pure

/-- The vault that is opened with the slots found on a medium. -/
def asFound (medium : μ) (now : Instant) (schedule : BackoffSchedule) (least : Severity)
    (found : Vector (Option Slot) slotCount) : Vault μ :=
  let opened : Vault μ :=
    { medium, schedule
      slots := found.map fun slot => slot.getD .erased
      response := .zero 16
      log := .create least }
  opened.record now (.opened (found.countP Option.isSome))

/-- Under a valid schedule, only the medium decides whether a vault can be restored. -/
theorem restore_of_valid (medium : μ) (now : Instant) {schedule : BackoffSchedule}
    (hvalid : schedule.Valid) (least : Severity) :
    restore medium now schedule least =
      (Vault.found medium).map (asFound medium now schedule least) := by
  have hvalidate : schedule.validate = .ok () := if_pos hvalid
  rw [restore, hvalidate]
  show (Vault.found medium >>= fun _ => _) = _
  cases Vault.found medium <;> rfl

/-- Under a valid schedule, a medium that has slots restores to a vault with those slots. -/
theorem restore_of_recovered {medium : μ} {slots : Vector Slot slotCount}
    (h : ∀ index : SlotIndex, Slot.recovered medium index = .ok (slots.get index)) (now : Instant)
    {schedule : BackoffSchedule} (hvalid : schedule.Valid) (least : Severity) :
    ∃ vault, restore medium now schedule least = .ok vault ∧ vault.slots = slots := by
  choose found hload hslot using fun index => Slot.load_of_recovered (h index)
  refine ⟨asFound medium now schedule least (Vector.ofFn found), ?_, ?_⟩
  · rw [restore_of_valid medium now hvalid, found_eq_ok hload]
    rfl
  · show (Vector.ofFn found).map (fun slot => slot.getD Slot.erased) = slots
    refine Vector.ext fun i hi => ?_
    rw [Vector.getElem_map, Vector.getElem_ofFn, hslot]
    rfl

end Vault

end

/-! ## Sessions -/

namespace VaultSession

variable {μ : Type} [Medium μ] [LawfulMedium μ]

/-- A vault survives being dropped at any point.  In every session, on whatever medium it began:
each slot of the open vault is the one that its record holds, or erased if the record was never
committed; and if the vault is dropped and opened again under a valid schedule, then whatever
happened to the medium meanwhile and whichever openings failed, it has the same slots. -/
theorem reopened_same_slots (medium : μ) (clock : SteppedClock) (steps : List (VaultStep μ))
    {vault : Vault μ}
    (hvault : (Session.after medium clock steps : VaultSession μ).component? = some vault) :
    (∀ index : SlotIndex, ∃ found, Persistent.load Slot vault.medium index.record = .ok found ∧
      found.getD .erased = vault.slot index) ∧
    ∀ idle : List (VaultStep μ), (∀ step ∈ idle, Session.IsIdle step) →
      ∀ opening : VaultOpening, opening.schedule.Valid →
        ∃ reopened, (Session.after medium clock (steps ++ idle ++ [.reopen opening]) :
            VaultSession μ).component? = some reopened ∧
          reopened.slots = vault.slots := by
  have hsynced : vault.Synced := Session.synced_after medium clock steps hvault
  refine ⟨fun index => Slot.load_of_recovered (hsynced index), ?_⟩
  intro idle hidle opening hvalid
  -- the medium still has the slots when the vault is opened again
  let dropped : VaultSession μ := .after medium clock (steps ++ idle)
  have hload (id : RecordId) (room : Nat) :
      Medium.load dropped.medium id room = Medium.load vault.medium id room := by
    have hsession : dropped = idle.foldl Session.step (.after medium clock steps) :=
      List.foldl_append
    rw [hsession, Session.load_of_idle _ hidle, Session.medium_of_component? hvault]
    rfl
  have hrecovered (index : SlotIndex) :
      Slot.recovered dropped.medium index = .ok (vault.slots.get index) :=
    (Persistent.recovered_congr Slot.erased (hload _ _)).trans (hsynced index)
  obtain ⟨reopened, hrestore, hslots⟩ :=
    Vault.restore_of_recovered hrecovered dropped.clock.now hvalid opening.least
  refine ⟨reopened, ?_, hslots⟩
  have hafter : (Session.after medium clock (steps ++ idle ++ [.reopen opening]) : VaultSession μ) =
      dropped.step (.reopen opening) := List.foldl_append
  have hopened : Component.restore dropped.medium dropped.clock.now opening = .ok reopened :=
    hrestore
  rw [hafter, Session.step, hopened]
  rfl

/-- Slots 0 and 3 are written, a wrong key is presented to slot 3, and an erasure of all slots runs
out of commits after two of them. -/
def halfErasure : List (VaultStep (RamMedium 64 46)) :=
  [.reopen ⟨{}, .standard⟩,
    .command (.write 0 (List.replicate 16 1) (List.replicate 16 2)),
    .command (.write 3 (List.replicate 16 7) (List.replicate 16 9)),
    .command (.read 3 (List.replicate 16 8) (List.replicate 16 0)),
    .befall (RamMedium.shortage 2), .command .eraseAll]

/-- The vault is dropped, and the next opening fails for its schedule. -/
def failedOpening : List (VaultStep (RamMedium 64 46)) :=
  [.wait ⟨5⟩, .reopen ⟨{ doublingEvery := 0 }, .standard⟩]

/-- After the half erasure slot 3 still has its value and its failure, and both survive. -/
theorem reopened_same_slots_halfErasure :
    ∃ vault reopened : Vault (RamMedium 64 46),
      (Session.after .empty {} halfErasure : VaultSession _).component? = some vault ∧
      (Session.after .empty {} (halfErasure ++ failedOpening ++ [.reopen ⟨{}, .standard⟩]) :
        VaultSession _).component? = some reopened ∧
      vault.slot ⟨0, by decide⟩ = .erased ∧
      vault.slot ⟨3, by decide⟩ = ⟨.fill 16 7, .fill 16 9, 1, .zero⟩ ∧
      reopened.slots = vault.slots := by
  have hslots : (Session.after .empty {} halfErasure : VaultSession _).component?.map
      (fun vault => (vault.slot ⟨0, by decide⟩, vault.slot ⟨3, by decide⟩)) =
        some (.erased, ⟨.fill 16 7, .fill 16 9, 1, .zero⟩) := by
    decide +kernel
  obtain ⟨vault, hvault, hpair⟩ := Option.map_eq_some_iff.mp hslots
  obtain ⟨hzero, hthree⟩ := Prod.mk.inj hpair
  have hidle : ∀ step ∈ failedOpening, Session.IsIdle step := by
    simp [failedOpening, Session.IsIdle]
  obtain ⟨-, hreopened⟩ :=
    reopened_same_slots (.empty : RamMedium 64 46) {} halfErasure hvault
  obtain ⟨reopened, hopened, hsame⟩ :=
    hreopened failedOpening hidle ⟨{}, .standard⟩ (by decide)
  exact ⟨vault, reopened, hvault, hopened, hzero, hthree, hsame⟩

end VaultSession

end SecureElement
