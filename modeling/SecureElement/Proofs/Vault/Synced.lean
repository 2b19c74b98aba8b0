/-
  SecureElement.Proofs.Vault.Synced

  A vault is synced while each slot in memory is the one that its medium has.  A vault is synced
  when it is restored, and every command keeps it so, whether or not its commits take effect.
-/
import SecureElement.Proofs.Vault.Access

namespace SecureElement

/-! ## Vectors filled by operations that can fail -/

/-- The elements of a filled vector are the results of the operations. -/
theorem eq_ok_of_ofFnM {ε α : Type} {n : Nat} {f : Fin n → Except ε α} {filled : Vector α n}
    (h : Vector.ofFnM f = .ok filled) (i : Fin n) : f i = .ok filled[i] := by
  -- by induction on the length: the last element comes after the vector of the others
  induction n with
  | zero => exact i.elim0
  | succ n ih =>
    rw [Vector.ofFnM_succ] at h
    cases hfront : Vector.ofFnM fun j : Fin n => f j.castSucc with
    | error error =>
      rw [hfront] at h
      cases h
    | ok front =>
      rw [hfront] at h
      cases hlast : f (Fin.last n) with
      | error error =>
        replace h : (f (Fin.last n) >>= fun last => pure (front.push last)) = .ok filled := h
        rw [hlast] at h
        cases h
      | ok last =>
        replace h : (f (Fin.last n) >>= fun last => pure (front.push last)) = .ok filled := h
        rw [hlast] at h
        cases h
        cases i using Fin.lastCases with
        | last => simpa using hlast
        | cast j => simpa using ih hfront j

/-- Mapping a filled vector is mapping the results of the operations. -/
theorem map_ofFnM {ε α β : Type} (g : α → β) {n : Nat} (f : Fin n → Except ε α) :
    (Vector.ofFnM f).map (Vector.map g) = Vector.ofFnM fun i => (f i).map g := by
  induction n with
  | zero =>
    rw [Vector.ofFnM_zero, Vector.ofFnM_zero]
    exact congrArg Except.ok Vector.map_empty
  | succ n ih =>
    rw [Vector.ofFnM_succ, Vector.ofFnM_succ, ← ih]
    cases Vector.ofFnM fun j : Fin n => f j.castSucc with
    | error error => rfl
    | ok front =>
      show (f (Fin.last n) >>= fun last => pure (front.push last)).map (Vector.map g) =
        (f (Fin.last n)).map g >>= fun last => pure ((front.map g).push last)
      cases f (Fin.last n) with
      | error error => rfl
      | ok last => exact congrArg Except.ok Vector.map_push

namespace Vault

variable {μ : Type} [Medium μ]

/-- Each slot in memory is the one that the medium has. -/
def Synced (vault : Vault μ) : Prop :=
  ∀ index, Slot.recovered vault.medium index = .ok (vault.slot index)

/-! ## Restoring -/

/-- What is restored is what the medium has. -/
theorem of_restore {medium : μ} {now : Instant} {schedule : BackoffSchedule} {least : Severity}
    {vault : Vault μ} (h : restore medium now schedule least = .ok vault) :
    vault.medium = medium ∧ vault.schedule = schedule ∧ vault.Synced := by
  unfold restore at h
  -- restoring succeeds only past the check of the schedule and the load of every slot
  cases hvalid : schedule.validate with
  | error refusal =>
    rw [hvalid] at h
    cases h
  | ok =>
    rw [hvalid] at h
    cases hfound : found medium with
    | error refusal =>
      replace h : (found medium >>= fun _ => _) = Except.ok vault := h
      rw [hfound] at h
      cases h
    | ok slots =>
      replace h : (found medium >>= fun _ => _) = Except.ok vault := h
      rw [hfound] at h
      cases h
      refine ⟨rfl, rfl, fun index => ?_⟩
      have hload := eq_ok_of_ofFnM hfound index
      have hslot : (slots.map fun slot => slot.getD Slot.erased)[index.val] =
          slots[index.val].getD Slot.erased := Vector.getElem_map _ _
      rw [slot_record]
      show _ = Except.ok (slots.map fun slot => slot.getD Slot.erased)[index.val]
      rw [hslot]
      exact Slot.recovered_of_load hload

/-! ## Commands -/

variable [LawfulMedium μ]

/-- A slot that was saved and kept is the one that the medium has. -/
theorem synced_keep {vault : Vault μ} {index : SlotIndex} {next : Slot} {after : μ}
    (h : vault.Synced) (hnext : next.failures ≤ maxFailures)
    (hsave : Persistent.save vault.medium index.record next = .ok after) :
    (vault.keep index ⟨next, after⟩).Synced := by
  intro other
  by_cases hother : other = index
  · subst hother
    rw [slot_keep_self]
    exact Persistent.recovered_save (Slot.decode_encode hnext) hsave
  · have hrecord : other.record ≠ index.record := fun heq =>
      hother (SlotIndex.record_inj.mp heq)
    rw [slot_keep_of_ne _ _ hother, ← h other]
    exact Persistent.recovered_save_of_ne hsave hrecord

theorem synced_write {vault : Vault μ} (h : vault.Synced) (now : Instant) (raw : UInt32)
    (key value : Bytes) : (vault.write now raw key value).2.Synced := by
  rcases write_cases vault now raw key value with
    ⟨index, slotKey, slotValue, after, -, -, -, hsave, heq⟩ | ⟨refusal, heq⟩
  · rw [heq]
    exact synced_keep h UInt16.zero_le hsave
  · rw [heq]
    exact h

theorem synced_readSlot {vault : Vault μ} (h : vault.Synced) (now : Instant) (index : SlotIndex)
    (key : SlotKey) : (vault.readSlot now index key).2.Synced := by
  obtain ⟨reading, hcase, heq⟩ := readSlot_cases vault now index key
  rw [heq]
  -- the response and the log play no part in it
  suffices hkeep : (vault.keep index reading.kept).Synced from hkeep
  cases hcase with
  | throttled | clean | notCleared | notRecorded =>
    show (vault.keep index ⟨vault.slot index, vault.medium⟩).Synced
    rw [keep_slot]
    exact h
  | cleared grant after hopen hkey hsave => exact synced_keep h UInt16.zero_le hsave
  | recorded after hopen hkey hsave => exact synced_keep h (Slot.failures_penalised_le _ _ _) hsave

theorem synced_erase {vault : Vault μ} (h : vault.Synced) (now : Instant) (raw : UInt32) :
    (vault.erase now raw).2.Synced := by
  rcases erase_cases vault now raw with ⟨index, after, -, hsave, heq⟩ | ⟨refusal, heq⟩
  · rw [heq]
    exact synced_keep h UInt16.zero_le hsave
  · rw [heq]
    exact h

/-- The pass over slots keeps a vault synced, wherever it stops. -/
theorem synced_eraseEach {vault : Vault μ} (h : vault.Synced) (indices : List SlotIndex) :
    (eraseEach indices vault).2.Synced := by
  induction indices generalizing vault with
  | nil => exact h
  | cons first rest ih =>
    rcases eraseSlot_cases vault first with ⟨after, hsave, heq⟩ | ⟨refusal, heq⟩
    · simp only [eraseEach, heq]
      exact ih (synced_keep h UInt16.zero_le hsave)
    · simp only [eraseEach, heq]
      exact h

theorem synced_execute {vault : Vault μ} (h : vault.Synced) (now : Instant)
    (command : VaultCommand) : (vault.execute now command).2.Synced := by
  cases command with
  | write raw key value => exact synced_write h now raw key value
  | read raw key out =>
    show (vault.read now raw key out).2.Synced
    rcases read_cases vault now raw key out with ⟨index, slotKey, -, -, heq⟩ | ⟨refusal, -, heq⟩
    · rw [heq]
      exact synced_readSlot h now index slotKey
    · rw [heq]
      exact h
  | erase raw => exact synced_erase h now raw
  | eraseAll =>
    show (vault.eraseAll now).2.Synced
    obtain ⟨hslots, hmedium, -⟩ := eraseAll_eq vault now
    intro index
    rw [hslots, hmedium]
    exact synced_eraseEach h SlotIndex.all index

end Vault

end SecureElement
