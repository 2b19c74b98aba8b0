/-
  SecureElement.Proofs.Vault.Access

  What a command of the vault can do.  A command that fails a check of its arguments changes
  nothing; one that passes comes down to an operation on a single slot.  The pass over all slots
  erases exactly as many slots as it makes commits.
-/
import SecureElement.Proofs.Slot.Access
import SecureElement.Vault.Command

namespace SecureElement

namespace Vault

variable {μ : Type}

/-! ## Parts of a vault -/

@[simp] theorem slot_record (vault : Vault μ) (now : Instant) (event : VaultEvent)
    (index : SlotIndex) : (vault.record now event).slot index = vault.slot index :=
  rfl

@[simp] theorem medium_keep (vault : Vault μ) (index : SlotIndex) (kept : Slot.Kept μ) :
    (vault.keep index kept).medium = kept.medium :=
  rfl

@[simp] theorem slot_keep_self (vault : Vault μ) (index : SlotIndex) (kept : Slot.Kept μ) :
    (vault.keep index kept).slot index = kept.slot := by
  show (vault.slots.set index.val kept.slot)[index.val] = kept.slot
  rw [Vector.getElem_set_self]

theorem slot_keep_of_ne (vault : Vault μ) {index other : SlotIndex} (kept : Slot.Kept μ)
    (hne : other ≠ index) : (vault.keep index kept).slot other = vault.slot other := by
  have hval : index.val ≠ other.val := fun heq => hne (Fin.ext heq.symm)
  -- `slot` reads the vector by a `Fin`, and the lemma is about numbers in range
  show (vault.slots.set index.val kept.slot)[other.val] = vault.slots[other.val]
  rw [Vector.getElem_set_ne _ _ hval]

@[simp] theorem keep_slot (vault : Vault μ) (index : SlotIndex) :
    vault.keep index ⟨vault.slot index, vault.medium⟩ = vault := by
  have hslots : vault.slots.set index.val vault.slots[index.val] = vault.slots :=
    Vector.set_getElem_self index.isLt
  show { vault with slots := vault.slots.set index.val vault.slots[index.val] } = vault
  rw [hslots]

/-! ## Checks of arguments -/

theorem argument_bytes {n : Nat} (block : Block n) : argument n block.bytes = .ok block := by
  simp [argument]

/-- An argument is taken as the block of its bytes, or it has the wrong length. -/
theorem argument_cases (n : Nat) (data : Bytes) :
    (∃ block : Block n, data = block.bytes ∧ argument n data = .ok block) ∨
      (data.length ≠ n ∧ argument n data = .error .wrongLength) := by
  by_cases h : data.length = n
  · exact Or.inl ⟨⟨data, h⟩, rfl, argument_bytes ⟨data, h⟩⟩
  · refine Or.inr ⟨h, ?_⟩
    rw [argument, Block.ofBytes?_eq_none_iff.mpr h]

theorem ofRaw_cases (raw : UInt32) :
    (∃ index : SlotIndex, raw.toNat = index.val ∧ SlotIndex.ofRaw raw = .ok index) ∨
      ((∀ index : SlotIndex, raw.toNat ≠ index.val) ∧
        SlotIndex.ofRaw raw = .error .unknownSlot) := by
  by_cases h : raw.toNat < slotCount
  · exact Or.inl ⟨⟨raw.toNat, h⟩, rfl, SlotIndex.ofRaw_eq_ok_iff.mpr rfl⟩
  · refine Or.inr ⟨fun index heq => h (heq ▸ index.isLt), ?_⟩
    rw [SlotIndex.ofRaw, SlotIndex.ofNat?, dif_neg h]

/-- A refusal by a check of the arguments. -/
def IsCheck (refusal : Refusal) : Prop :=
  refusal = .unknownSlot ∨ refusal = .wrongLength

/-- The checks of a command that names a slot and has two arguments of a key's length. -/
def checked (raw : UInt32) (first second : Bytes) :
    Except Refusal (SlotIndex × Block 16 × Block 16) := do
  return (← SlotIndex.ofRaw raw, ← argument 16 first, ← argument 16 second)

/-- The checks pass, or one of them refuses. -/
theorem checked_cases (raw : UInt32) (first second : Bytes) :
    (∃ (index : SlotIndex) (a b : Block 16),
      raw.toNat = index.val ∧ first = a.bytes ∧ second = b.bytes ∧
      checked raw first second = .ok (index, a, b)) ∨
    (∃ refusal, IsCheck refusal ∧ checked raw first second = .error refusal) := by
  unfold checked
  -- the number comes first, then the lengths from left to right
  rcases ofRaw_cases raw with ⟨index, hindex, hraw⟩ | ⟨-, hraw⟩
  · rcases argument_cases 16 first with ⟨a, ha, hfirst⟩ | ⟨-, hfirst⟩
    · rcases argument_cases 16 second with ⟨b, hb, hsecond⟩ | ⟨-, hsecond⟩
      · refine Or.inl ⟨index, a, b, hindex, ha, hb, ?_⟩
        rw [hraw, hfirst, hsecond]
        rfl
      · refine Or.inr ⟨.wrongLength, Or.inr rfl, ?_⟩
        rw [hraw, hfirst, hsecond]
        rfl
    · refine Or.inr ⟨.wrongLength, Or.inr rfl, ?_⟩
      rw [hraw, hfirst]
      rfl
  · refine Or.inr ⟨.unknownSlot, Or.inl rfl, ?_⟩
    rw [hraw]
    rfl

theorem checked_eq_ok {raw : UInt32} {index : SlotIndex} (hindex : raw.toNat = index.val)
    (first second : Block 16) :
    checked raw first.bytes second.bytes = .ok (index, first, second) := by
  rw [checked, SlotIndex.ofRaw_eq_ok_iff.mpr hindex, argument_bytes, argument_bytes]
  rfl

/-! ## Commands on one slot -/

variable [Medium μ]

theorem write_eq (vault : Vault μ) (now : Instant) (raw : UInt32) (key value : Bytes) :
    vault.write now raw key value =
      match checked raw key value with
      | .ok (index, key, value) => vault.writeSlot now index key value
      | .error refusal => (.error refusal, vault) :=
  rfl

theorem read_eq (vault : Vault μ) (now : Instant) (raw : UInt32) (key out : Bytes) :
    vault.read now raw key out =
      match checked raw key out with
      | .ok (index, key, _) => vault.readSlot now index key
      | .error refusal => ({ result := .error refusal, out }, vault) :=
  rfl

/-- A write saves the new slot in place of the one that it names, or it changes nothing. -/
theorem write_cases (vault : Vault μ) (now : Instant) (raw : UInt32) (key value : Bytes) :
    (∃ (index : SlotIndex) (slotKey : SlotKey) (slotValue : SlotValue) (after : μ),
      raw.toNat = index.val ∧ key = slotKey.bytes ∧ value = slotValue.bytes ∧
      Persistent.save vault.medium index.record (Slot.holding slotKey slotValue) = .ok after ∧
      vault.write now raw key value =
        (.ok (), (vault.keep index ⟨.holding slotKey slotValue, after⟩).record now
          (.written index))) ∨
    (∃ refusal, vault.write now raw key value = (.error refusal, vault)) := by
  rcases checked_cases raw key value with
    ⟨index, slotKey, slotValue, hindex, hkey, hvalue, hchecked⟩ | ⟨refusal, -, hchecked⟩
  · -- past the checks it is the medium that decides
    have hslot : vault.write now raw key value =
        vault.writeSlot now index slotKey slotValue := by
      rw [write_eq, hchecked]
    unfold writeSlot Slot.write at hslot
    rcases Slot.replace_cases (vault.slot index) vault.medium index
        (.holding slotKey slotValue) with ⟨after, hsave, hreplace⟩ | ⟨error, -, hreplace⟩
    · exact Or.inl ⟨index, slotKey, slotValue, after, hindex, hkey, hvalue, hsave, by
        rw [hslot, hreplace]⟩
    · exact Or.inr ⟨error.toRefusal, by simp only [hslot, hreplace, keep_slot]⟩
  · exact Or.inr ⟨refusal, by rw [write_eq, hchecked]⟩

/-- A read fails a check and changes nothing, or it presents its key to the slot that it names. -/
theorem read_cases (vault : Vault μ) (now : Instant) (raw : UInt32) (key out : Bytes) :
    (∃ (index : SlotIndex) (slotKey : SlotKey),
      raw.toNat = index.val ∧ key = slotKey.bytes ∧
      vault.read now raw key out = vault.readSlot now index slotKey) ∨
    (∃ refusal, IsCheck refusal ∧
      vault.read now raw key out = ({ result := .error refusal, out }, vault)) := by
  rcases checked_cases raw key out with
    ⟨index, slotKey, buffer, hindex, hkey, -, hchecked⟩ | ⟨refusal, hcheck, hchecked⟩
  · exact Or.inl ⟨index, slotKey, hindex, hkey, by rw [read_eq, hchecked]⟩
  · exact Or.inr ⟨refusal, hcheck, by rw [read_eq, hchecked]⟩

/-- A read whose arguments pass the checks presents its key to the slot that it names. -/
theorem read_eq_readSlot (vault : Vault μ) (now : Instant) {raw : UInt32} {index : SlotIndex}
    (hindex : raw.toNat = index.val) (key : SlotKey) (out : SlotValue) :
    vault.read now raw key.bytes out.bytes = vault.readSlot now index key := by
  rw [read_eq, checked_eq_ok hindex]

/-- The read of a slot ends in one of the ways of `Slot.ReadCase`, and the vault keeps what it
leaves. -/
theorem readSlot_cases (vault : Vault μ) (now : Instant) (index : SlotIndex) (key : SlotKey) :
    ∃ reading : Slot.Reading μ,
      Slot.ReadCase (vault.slot index) vault.medium index key now vault.schedule reading ∧
      vault.readSlot now index key =
        ({ result := reading.result.map fun _ => (), out := reading.out.bytes },
          { vault.keep index reading.kept with response := reading.response }.record now
            (.ofRead index reading.kept.slot.failures reading.result)) :=
  ⟨_, Slot.read_readCase _ _ _ _ _ _, rfl⟩

/-- A slot is erased exactly if the erased one is saved; else nothing changes. -/
theorem eraseSlot_cases (vault : Vault μ) (index : SlotIndex) :
    (∃ after, Persistent.save vault.medium index.record Slot.erased = .ok after ∧
      vault.eraseSlot index = (.ok (), vault.keep index ⟨.erased, after⟩)) ∨
    (∃ refusal, vault.eraseSlot index = (.error refusal, vault)) := by
  unfold eraseSlot Slot.erase
  rcases Slot.replace_cases (vault.slot index) vault.medium index .erased with
    ⟨after, hsave, heq⟩ | ⟨error, -, heq⟩
  · exact Or.inl ⟨after, hsave, by rw [heq]⟩
  · exact Or.inr ⟨error.toRefusal, by simp only [heq, keep_slot]⟩

/-- An erasure saves an erased slot in place of the one that it names, or it changes nothing. -/
theorem erase_cases (vault : Vault μ) (now : Instant) (raw : UInt32) :
    (∃ (index : SlotIndex) (after : μ), raw.toNat = index.val ∧
      Persistent.save vault.medium index.record Slot.erased = .ok after ∧
      vault.erase now raw =
        (.ok (), (vault.keep index ⟨.erased, after⟩).record now (.erased index))) ∨
    (∃ refusal, vault.erase now raw = (.error refusal, vault)) := by
  unfold erase
  rcases ofRaw_cases raw with ⟨index, hindex, hraw⟩ | ⟨-, hraw⟩
  · rcases eraseSlot_cases vault index with ⟨after, hsave, heq⟩ | ⟨refusal, heq⟩
    · exact Or.inl ⟨index, after, hindex, hsave, by simp only [hraw, heq]⟩
    · exact Or.inr ⟨refusal, by simp only [hraw, heq]⟩
  · exact Or.inr ⟨.unknownSlot, by rw [hraw]⟩

/-! ## The pass over all slots -/

/-- The pass over slots erases as many of them, from the first on, as it makes commits, and it
leaves the others alone. -/
theorem eraseEach_spec [CountedMedium μ] (indices : List SlotIndex) (vault : Vault μ) :
    ∃ count ≤ indices.length,
      CountedMedium.commits (eraseEach indices vault).2.medium =
        CountedMedium.commits vault.medium + count ∧
      (∀ index ∈ indices.take count, (eraseEach indices vault).2.slot index = .erased) ∧
      ∀ index ∉ indices.take count, (eraseEach indices vault).2.slot index = vault.slot index := by
  induction indices generalizing vault with
  | nil => exact ⟨0, Nat.le_refl 0, rfl, fun index h => (nomatch h), fun index _ => rfl⟩
  | cons first rest ih =>
    rcases eraseSlot_cases vault first with ⟨after, hsave, heq⟩ | ⟨refusal, heq⟩
    · obtain ⟨count, hcount, hcommits, herased, hkept⟩ := ih (vault.keep first ⟨.erased, after⟩)
      have hstep : eraseEach (first :: rest) vault =
          eraseEach rest (vault.keep first ⟨.erased, after⟩) := by
        simp only [eraseEach, heq]
      rw [hstep]
      refine ⟨count + 1, Nat.succ_le_succ hcount, ?_, fun index hmem => ?_, fun index hmem => ?_⟩
      · rw [hcommits, medium_keep, Persistent.commits_save hsave]
        omega
      · rw [List.take_succ_cons] at hmem
        -- the first slot may be named again later, and is erased again then
        by_cases hrest : index ∈ rest.take count
        · exact herased index hrest
        · have hfirst : index = first := (List.mem_cons.mp hmem).resolve_right hrest
          rw [hkept index hrest, hfirst]
          exact slot_keep_self _ _ _
      · rw [List.take_succ_cons] at hmem
        have hne : index ≠ first := fun h => hmem (List.mem_cons.mpr (Or.inl h))
        have hrest : index ∉ rest.take count := fun h => hmem (List.mem_cons_of_mem _ h)
        rw [hkept index hrest]
        exact slot_keep_of_ne _ _ hne
    · have hstep : eraseEach (first :: rest) vault = (.error refusal, vault) := by
        simp only [eraseEach, heq]
      rw [hstep]
      exact ⟨0, Nat.zero_le _, rfl, fun index h => (nomatch h), fun index _ => rfl⟩

theorem schedule_eraseEach (indices : List SlotIndex) (vault : Vault μ) :
    (eraseEach indices vault).2.schedule = vault.schedule := by
  induction indices generalizing vault with
  | nil => rfl
  | cons first rest ih =>
    rcases eraseSlot_cases vault first with ⟨after, -, heq⟩ | ⟨refusal, heq⟩
    · simp only [eraseEach, heq]
      exact ih (vault.keep first ⟨.erased, after⟩)
    · simp only [eraseEach, heq]

theorem mem_take_all {index : SlotIndex} {count : Nat} :
    index ∈ SlotIndex.all.take count ↔ index.val < count := by
  unfold SlotIndex.all
  rw [List.mem_take_iff_getElem]
  constructor
  · rintro ⟨position, hposition, heq⟩
    rw [← heq]
    simp only [List.getElem_finRange, Fin.val_cast]
    omega
  · intro h
    have hlt := index.isLt
    refine ⟨index.val, ?_, ?_⟩
    · rw [List.length_finRange]
      omega
    · simp

/-- Erasing all slots leaves the slots and the medium of the pass over them. -/
theorem eraseAll_eq (vault : Vault μ) (now : Instant) :
    (∀ index, (vault.eraseAll now).2.slot index =
      (eraseEach SlotIndex.all vault).2.slot index) ∧
    (vault.eraseAll now).2.medium = (eraseEach SlotIndex.all vault).2.medium ∧
    (vault.eraseAll now).2.schedule = (eraseEach SlotIndex.all vault).2.schedule := by
  unfold eraseAll
  split <;> rename_i heq <;> rw [heq] <;> exact ⟨fun _ => rfl, rfl, rfl⟩

end Vault

end SecureElement
