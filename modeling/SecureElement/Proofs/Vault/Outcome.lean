/-
  SecureElement.Proofs.Vault.Outcome

  The vault as a component with sessions, and what its commands do to a slot.  `VaultDeed.outcome`
  says what a command did as its caller can tell, and `Slot.Effect` what that outcome means for the
  slot in memory; `VaultDeed.effect` says that every command has the effect of its outcome on every
  slot.
-/
import SecureElement.Proofs.Session
import SecureElement.Proofs.Vault.Synced

namespace SecureElement

/-! ## The vault as a component -/

/-- What a vault is opened with. -/
structure VaultOpening where
  schedule : BackoffSchedule
  least : Severity := .standard

instance : Component Vault VaultOpening VaultCommand VaultReply where
  medium := Vault.medium
  onMedium vault medium := { vault with medium }
  restore medium now opening := Vault.restore medium now opening.schedule opening.least
  execute := Vault.execute
  Synced := Vault.Synced
  medium_onMedium _ _ := rfl
  of_restore h := ⟨(Vault.of_restore h).1, (Vault.of_restore h).2.2⟩
  synced_execute h now command := Vault.synced_execute h now command
  synced_befall {_ _ vault} h accident index :=
    (Persistent.recovered_befall accident Slot.erased vault.medium index.record).trans (h index)

/-- A command to a vault that was carried out. -/
abbrev VaultDeed :=
  Deed Vault VaultCommand

/-- A step of a session with a vault. -/
abbrev VaultStep (μ : Type) [Medium μ] :=
  SessionStep VaultOpening VaultCommand μ

abbrev VaultSession :=
  Session Vault VaultCommand

/-! ## Outcomes -/

/-- What a command did to a slot, as its caller can tell. -/
inductive SlotOutcome where
  /-- The slot was left alone, or an attempt on it failed without effect. -/
  | nothing
  | deposited (key value : Bytes)
  | erased
  | granted
  /-- A wrong key was answered with a backoff. -/
  | penalised (backoff : Duration)
deriving DecidableEq

/-- What a read did to the slot that it names. -/
def SlotOutcome.ofRead : Except Refusal Unit → SlotOutcome
  | .ok () => granted
  | .error (.wrongKey backoff) => penalised backoff
  | .error _ => nothing

namespace VaultDeed

variable {μ : Type} [Medium μ]

def accepted (deed : VaultDeed μ) : Bool :=
  deed.reply.result.isOk

variable [CountedMedium μ]

/-- The number of commits that the command made. -/
def committed (deed : VaultDeed μ) : Nat :=
  CountedMedium.commits deed.after.medium - CountedMedium.commits deed.before.medium

/-- What the command did to a slot.  Erasing all slots makes one commit for each slot that it
reaches, lowest number first, so it erases exactly the slots below the number of its commits. -/
def outcome (deed : VaultDeed μ) (index : SlotIndex) : SlotOutcome :=
  match deed.command with
  | .write raw key value =>
    if raw.toNat = index.val ∧ deed.accepted then .deposited key value else .nothing
  | .read raw _ _ =>
    if raw.toNat = index.val then .ofRead deed.reply.result else .nothing
  | .erase raw => if raw.toNat = index.val ∧ deed.accepted then .erased else .nothing
  -- a pass that fails has erased the slots before the one that it stopped at
  | .eraseAll => if index.val < deed.committed then .erased else .nothing

end VaultDeed

/-! ## Effects on a slot -/

/-- What an outcome means for the slot in memory. -/
inductive Slot.Effect (now : Instant) (schedule : BackoffSchedule) (before : Slot) :
    SlotOutcome → Slot → Prop where
  | nothing : Effect now schedule before .nothing before
  /-- The slot holds the new value under the new key. -/
  | deposited (key : SlotKey) (value : SlotValue) :
      Effect now schedule before (.deposited key.bytes value.bytes) (.holding key value)
  | erased : Effect now schedule before .erased .erased
  /-- The throttling is cleared; the slot had to be open. -/
  | granted (hopen : before.deadline ≤ now) :
      Effect now schedule before .granted before.cleared
  /-- A failure is added; the slot had to be open. -/
  | penalised (hopen : before.deadline ≤ now) :
      Effect now schedule before
        (.penalised (schedule.backoff (before.penalised now schedule).failures))
        (before.penalised now schedule)

namespace Slot

theorem Effect.eq_of_nothing {now : Instant} {schedule : BackoffSchedule} {before after : Slot}
    (h : Effect now schedule before .nothing after) : after = before := by
  cases h
  rfl

/-- A wrong key was presented to an open slot, and it was answered with the backoff of the new
failure count. -/
theorem Effect.of_penalised {now : Instant} {schedule : BackoffSchedule} {before after : Slot}
    {backoff : Duration} (h : Effect now schedule before (.penalised backoff) after) :
    before.deadline ≤ now ∧ after = before.penalised now schedule ∧
      backoff = schedule.backoff after.failures := by
  cases h with
  | penalised hopen => exact ⟨hopen, rfl, rfl⟩

end Slot

namespace VaultDeed

variable {μ : Type} [Medium μ]

/-- A read that met an error of the medium did nothing. -/
theorem ofRead_toRefusal (error : MediumError) :
    SlotOutcome.ofRead (.error error.toRefusal) = .nothing := by
  cases error <;> rfl

/-- A read that failed a check did nothing. -/
theorem ofRead_check {refusal : Refusal} (h : Vault.IsCheck refusal) :
    SlotOutcome.ofRead (.error refusal) = .nothing := by
  rcases h with rfl | rfl <;> rfl

theorem schedule_after (deed : VaultDeed μ) : deed.after.schedule = deed.before.schedule := by
  obtain ⟨now, command, vault⟩ := deed
  show (vault.execute now command).2.schedule = vault.schedule
  -- no case of a command mentions the schedule, and the pass over all slots keeps it step by step
  cases command with
  | write raw key value =>
    show (vault.write now raw key value).2.schedule = vault.schedule
    rcases Vault.write_cases vault now raw key value with
      ⟨index, slotKey, slotValue, after, -, -, -, -, heq⟩ | ⟨refusal, heq⟩
    · rw [heq]
      rfl
    · rw [heq]
  | read raw key out =>
    show (vault.read now raw key out).2.schedule = vault.schedule
    rcases Vault.read_cases vault now raw key out with ⟨index, slotKey, -, -, heq⟩ | ⟨_, -, heq⟩
    · rw [heq]
      rfl
    · rw [heq]
  | erase raw =>
    show (vault.erase now raw).2.schedule = vault.schedule
    rcases Vault.erase_cases vault now raw with ⟨index, after, -, -, heq⟩ | ⟨refusal, heq⟩
    · rw [heq]
      rfl
    · rw [heq]
  | eraseAll =>
    show (vault.eraseAll now).2.schedule = vault.schedule
    rw [(Vault.eraseAll_eq vault now).2.2]
    exact Vault.schedule_eraseEach SlotIndex.all vault

/-! ### Every command has the effect of its outcome -/

/-- A number that names one slot names no other. -/
theorem toNat_ne_of_ne {raw : UInt32} {named index : SlotIndex} (hraw : raw.toNat = named.val)
    (h : index ≠ named) : raw.toNat ≠ index.val := by
  intro heq
  have hval : index.val = named.val := heq.symm.trans hraw
  exact h (Fin.ext hval)

/-- The read of a slot has the effect of its outcome on that slot. -/
theorem effect_readSlot (now : Instant) (vault : Vault μ) (index : SlotIndex) (key : SlotKey) :
    Slot.Effect now vault.schedule (vault.slot index)
      (.ofRead (vault.readSlot now index key).1.result)
      ((vault.readSlot now index key).2.slot index) := by
  obtain ⟨reading, hcase, heq⟩ := Vault.readSlot_cases vault now index key
  have hslot : (vault.readSlot now index key).2.slot index = reading.kept.slot := by
    rw [heq]
    exact Vault.slot_keep_self vault index reading.kept
  rw [hslot, heq]
  cases hcase with
  | throttled hwait => exact .nothing
  | clean hopen hkey hclean =>
    -- without failures there is nothing to clear
    have hcleared : (vault.slot index).cleared = vault.slot index := by
      ext1 <;> simp [Slot.cleared, hclean]
    have heffect : Slot.Effect now vault.schedule (vault.slot index) .granted
        (vault.slot index).cleared := .granted hopen
    rw [hcleared] at heffect
    exact heffect
  | cleared grant after hopen hkey hsave => exact .granted hopen
  | notCleared error hopen hkey hsave =>
    show Slot.Effect _ _ _ (.ofRead (.error error.toRefusal)) _
    rw [ofRead_toRefusal]
    exact .nothing
  | recorded after hopen hkey hsave => exact .penalised hopen
  | notRecorded error hopen hkey hsave =>
    show Slot.Effect _ _ _ (.ofRead (.error error.toRefusal)) _
    rw [ofRead_toRefusal]
    exact .nothing

variable [CountedMedium μ]

/-- A write has the effect of its outcome on every slot. -/
theorem effect_write (now : Instant) (vault : Vault μ) (raw : UInt32) (key value : Bytes)
    (index : SlotIndex) :
    let deed : VaultDeed μ := ⟨now, .write raw key value, vault⟩
    Slot.Effect now vault.schedule (vault.slot index) (deed.outcome index)
      (deed.after.slot index) := by
  intro deed
  have houtcome : deed.outcome index =
      if raw.toNat = index.val ∧ (vault.write now raw key value).1.isOk then
        .deposited key value else .nothing := rfl
  have hafter : deed.after = (vault.write now raw key value).2 := rfl
  rcases Vault.write_cases vault now raw key value with
    ⟨named, slotKey, slotValue, after, hraw, hkey, hvalue, -, heq⟩ | ⟨refusal, heq⟩
  · rw [houtcome, hafter, heq, Vault.slot_record]
    by_cases hindex : index = named
    · subst hindex
      rw [if_pos ⟨hraw, rfl⟩, Vault.slot_keep_self, hkey, hvalue]
      exact .deposited slotKey slotValue
    · have hne := toNat_ne_of_ne hraw hindex
      rw [if_neg fun h => hne h.1, Vault.slot_keep_of_ne _ _ hindex]
      exact .nothing
  · rw [houtcome, hafter, heq, if_neg fun h => Bool.noConfusion h.2]
    exact .nothing

/-- An erasure has the effect of its outcome on every slot. -/
theorem effect_erase (now : Instant) (vault : Vault μ) (raw : UInt32) (index : SlotIndex) :
    let deed : VaultDeed μ := ⟨now, .erase raw, vault⟩
    Slot.Effect now vault.schedule (vault.slot index) (deed.outcome index)
      (deed.after.slot index) := by
  intro deed
  have houtcome : deed.outcome index =
      if raw.toNat = index.val ∧ (vault.erase now raw).1.isOk then .erased else .nothing := rfl
  have hafter : deed.after = (vault.erase now raw).2 := rfl
  rcases Vault.erase_cases vault now raw with ⟨named, after, hraw, -, heq⟩ | ⟨refusal, heq⟩
  · rw [houtcome, hafter, heq, Vault.slot_record]
    by_cases hindex : index = named
    · subst hindex
      rw [if_pos ⟨hraw, rfl⟩, Vault.slot_keep_self]
      exact .erased
    · have hne := toNat_ne_of_ne hraw hindex
      rw [if_neg fun h => hne h.1, Vault.slot_keep_of_ne _ _ hindex]
      exact .nothing
  · rw [houtcome, hafter, heq, if_neg fun h => Bool.noConfusion h.2]
    exact .nothing

/-- Erasing all slots has the effect of its outcome on every slot, wherever it stops. -/
theorem effect_eraseAll (now : Instant) (vault : Vault μ) (index : SlotIndex) :
    let deed : VaultDeed μ := ⟨now, .eraseAll, vault⟩
    Slot.Effect now vault.schedule (vault.slot index) (deed.outcome index)
      (deed.after.slot index) := by
  intro deed
  obtain ⟨hslots, hmedium, -⟩ := Vault.eraseAll_eq vault now
  obtain ⟨count, -, hcommits, herased, hkept⟩ := Vault.eraseEach_spec SlotIndex.all vault
  have hcommitted : deed.committed = count := by
    show CountedMedium.commits (vault.eraseAll now).2.medium -
      CountedMedium.commits vault.medium = _
    rw [hmedium, hcommits, Nat.add_sub_cancel_left]
  have houtcome : deed.outcome index =
      if index.val < deed.committed then .erased else .nothing := rfl
  have hslot : deed.after.slot index = (Vault.eraseEach SlotIndex.all vault).2.slot index :=
    hslots index
  rw [houtcome, hslot, hcommitted]
  by_cases hlt : index.val < count
  · rw [if_pos hlt, herased index (Vault.mem_take_all.mpr hlt)]
    exact .erased
  · rw [if_neg hlt, hkept index fun h => hlt (Vault.mem_take_all.mp h)]
    exact .nothing

/-- A read has the effect of its outcome on every slot. -/
theorem effect_read (now : Instant) (vault : Vault μ) (raw : UInt32) (key out : Bytes)
    (index : SlotIndex) :
    let deed : VaultDeed μ := ⟨now, .read raw key out, vault⟩
    Slot.Effect now vault.schedule (vault.slot index) (deed.outcome index)
      (deed.after.slot index) := by
  intro deed
  have houtcome : deed.outcome index =
      if raw.toNat = index.val then .ofRead (vault.read now raw key out).1.result
      else .nothing := rfl
  have hafter : deed.after = (vault.read now raw key out).2 := rfl
  rcases Vault.read_cases vault now raw key out with
    ⟨named, slotKey, hraw, -, heq⟩ | ⟨refusal, hcheck, heq⟩
  · rw [houtcome, hafter, heq]
    by_cases hindex : index = named
    · subst hindex
      rw [if_pos hraw]
      exact effect_readSlot now vault index slotKey
    · have hne := toNat_ne_of_ne hraw hindex
      obtain ⟨reading, -, hread⟩ := Vault.readSlot_cases vault now named slotKey
      have hslot : (vault.readSlot now named slotKey).2.slot index = vault.slot index := by
        rw [hread]
        exact Vault.slot_keep_of_ne vault reading.kept hindex
      rw [if_neg hne, hslot]
      exact .nothing
  · rw [houtcome, hafter, heq, ofRead_check hcheck, ite_self]
    exact .nothing

/-- Every command has the effect of its outcome on every slot. -/
theorem effect (deed : VaultDeed μ) (index : SlotIndex) :
    Slot.Effect deed.instant deed.before.schedule (deed.before.slot index) (deed.outcome index)
      (deed.after.slot index) := by
  obtain ⟨now, command, vault⟩ := deed
  cases command with
  | write raw key value => exact effect_write now vault raw key value index
  | read raw key out => exact effect_read now vault raw key out index
  | erase raw => exact effect_erase now vault raw index
  | eraseAll => exact effect_eraseAll now vault index

end VaultDeed

/-! ## Sessions with a vault -/

namespace VaultSession

variable {μ : Type} [Medium μ]

/-- The schedule that a step opens the vault with is an allowed one. -/
def Uses (allowed : BackoffSchedule → Prop) : VaultStep μ → Prop
  | .reopen opening => allowed opening.schedule
  | .wait _ | .command _ | .befall _ => True

/-- A vault keeps the schedule that it was opened with. -/
theorem lasts_schedule (allowed : BackoffSchedule → Prop) :
    Session.Lasts Vault μ fun vault => allowed vault.schedule where
  execute vault now command h := by
    have hafter := VaultDeed.schedule_after (⟨now, command, vault⟩ : VaultDeed μ)
    exact hafter ▸ h
  onMedium _ _ h := h

theorem opens_of_uses {allowed : BackoffSchedule → Prop} {step : VaultStep μ}
    (h : Uses allowed step) :
    Session.Opens (fun vault : Vault μ => allowed vault.schedule) step := by
  cases step with
  | reopen opening =>
    intro medium now vault hrestore
    have hschedule := (Vault.of_restore hrestore).2.1
    exact hschedule ▸ h
  | wait | command | befall => trivial

variable [LawfulMedium μ]

/-- What the past tells about a slot: if every command carries it from the slot before to the slot
after, it holds throughout a session of the slot that the medium has and of the one in memory. -/
theorem tells_slot {allowed : BackoffSchedule → Prop} (index : SlotIndex)
    (tells : List (VaultDeed μ) → Except MediumError Slot → Prop)
    (hdeed : ∀ past (deed : VaultDeed μ), allowed deed.before.schedule →
      tells past (.ok (deed.before.slot index)) →
        tells (deed :: past) (.ok (deed.after.slot index)))
    {medium : μ} (hstart : tells [] (Slot.recovered medium index)) (clock : SteppedClock)
    {steps : List (VaultStep μ)} (hsteps : ∀ step ∈ steps, Uses allowed step) :
    let session : VaultSession μ := .after medium clock steps
    tells session.past (Slot.recovered session.medium index) ∧
      ∀ vault, session.component? = some vault →
        vault.Synced ∧ tells session.past (.ok (vault.slot index)) := by
  intro session
  have hcarries : ∀ past (deed : VaultDeed μ), allowed deed.before.schedule →
      Component.Synced deed.before → Component.Synced deed.after →
        tells past (Slot.recovered (Component.medium deed.before) index) →
          tells (deed :: past) (Slot.recovered (Component.medium deed.after) index) := by
    intro past deed hallowed hbefore hafter htells
    -- in step with their media, both vaults have the slots that the media have
    rw [show Slot.recovered (Component.medium deed.before) index = _ from hbefore index] at htells
    rw [show Slot.recovered (Component.medium deed.after) index = _ from hafter index]
    exact hdeed past deed hallowed htells
  obtain ⟨horderly, htells⟩ := Session.run_tells
    (fun medium => Slot.recovered medium index) tells
    (fun accident medium => Persistent.recovered_befall accident Slot.erased medium index.record)
    (lasts_schedule allowed) hcarries hstart clock
    (fun step hstep => opens_of_uses (hsteps step hstep))
  refine ⟨htells, fun vault hvault => ?_⟩
  have hbench := Session.component?_eq_some.mp hvault
  have hsynced : vault.Synced := (horderly vault hbench).2
  refine ⟨hsynced, ?_⟩
  have hmedium : session.medium = vault.medium := Session.medium_of_component? hvault
  rw [← hsynced index, ← hmedium]
  exact htells

end VaultSession

end SecureElement
