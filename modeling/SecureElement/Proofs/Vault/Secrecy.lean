/-
  SecureElement.Proofs.Vault.Secrecy

  What a command gives away.  Two vaults are alike if they differ in keys and values only: they are
  throttled alike, they respond alike, and their logs and the commits of their media are the same.
  Alike media restore to alike vaults; and commands that differ in keys and values only, and find
  out the same about the keys that they present, are answered alike and leave alike vaults.
-/
import SecureElement.Proofs.Slot.Secrecy
import SecureElement.Proofs.Vault.Recovery

namespace SecureElement

/-- Two replies that are the same, unless what the caller got is a released value. -/
structure VaultReply.Alike (one two : VaultReply) : Prop where
  result : one.result = two.result
  out : one.result ≠ .ok () → one.out = two.out

/-! ## What may be seen of a vault -/

/-- What may be seen of a vault: all but the keys and the values of its slots. -/
structure VaultView where
  schedule : BackoffSchedule
  /-- The slots with their keys and values zeroed. -/
  slots : Vector Slot slotCount
  response : SlotValue
  log : AuditLog

namespace Vault

section

variable {μ : Type}

def view (vault : Vault μ) : VaultView :=
  ⟨vault.schedule, vault.slots.map Slot.wipe, vault.response, vault.log⟩

theorem view_keep (vault : Vault μ) (index : SlotIndex) (kept : Slot.Kept μ) :
    (vault.keep index kept).view =
      { vault.view with slots := vault.view.slots.set index.val kept.slot.wipe index.isLt } := by
  simp only [view, keep, Vector.map_set]

theorem view_record (vault : Vault μ) (now : Instant) (event : VaultEvent) :
    (vault.record now event).view =
      { vault.view with log := vault.view.log.note now.ms "weaver" event.note } :=
  rfl

/-- What may be seen of a vault that was opened depends on what may be seen of the slots that were
found. -/
theorem view_asFound (medium : μ) (now : Instant) (schedule : BackoffSchedule) (least : Severity)
    (found : Vector (Option Slot) slotCount) :
    (asFound medium now schedule least found).view =
      (asFound medium now schedule least (found.map (Option.map Slot.wipe))).view := by
  have hslot : (fun slot : Option Slot => (slot.getD .erased).wipe) =
      fun slot => ((slot.map Slot.wipe).getD .erased).wipe := by
    funext slot
    cases slot <;> rfl
  have hslots : (found.map fun slot => slot.getD Slot.erased).map Slot.wipe =
      ((found.map (Option.map Slot.wipe)).map fun slot => slot.getD Slot.erased).map Slot.wipe := by
    rw [Vector.map_map, Vector.map_map, Vector.map_map]
    exact congrArg (fun seen : Option Slot → Slot => found.map seen) hslot
  have hcount : found.countP Option.isSome =
      (found.map (Option.map Slot.wipe)).countP Option.isSome := by
    rw [Vector.countP_map]
    congr 1
    funext slot
    exact Option.isSome_map.symm
  rw [asFound, asFound, view_record, view_record]
  simp only [view, hslots, hcount]

end

/-- Two vaults, with their media, that differ in keys and values only. -/
structure Alike {records capacity : Nat} (first second : Vault (RamMedium records capacity)) :
    Prop where
  view : first.view = second.view
  medium : first.medium.Alike second.medium

variable {records capacity : Nat} {first second : Vault (RamMedium records capacity)}

namespace Alike

theorem schedule (h : first.Alike second) : first.schedule = second.schedule :=
  congrArg VaultView.schedule h.view

theorem slot (h : first.Alike second) (index : SlotIndex) :
    (first.slot index).wipe = (second.slot index).wipe := by
  have hslots : first.slots.map Slot.wipe = second.slots.map Slot.wipe :=
    congrArg VaultView.slots h.view
  have hget := congrArg (fun slots : Vector Slot slotCount => slots[index.val]) hslots
  rwa [Vector.getElem_map, Vector.getElem_map] at hget

theorem keep (h : first.Alike second) (index : SlotIndex)
    {kept kept' : Slot.Kept (RamMedium records capacity)} (hkept : kept.Alike kept') :
    (first.keep index kept).Alike (second.keep index kept') := by
  refine ⟨?_, hkept.medium⟩
  rw [view_keep, view_keep, h.view, hkept.slot]

theorem record (h : first.Alike second) (now : Instant) (event : VaultEvent) :
    (first.record now event).Alike (second.record now event) := by
  refine ⟨?_, h.medium⟩
  rw [view_record, view_record, h.view]

theorem respond (h : first.Alike second) (response : SlotValue) :
    ({ first with response } : Vault (RamMedium records capacity)).Alike
      { second with response } :=
  ⟨congrArg (fun view : VaultView => { view with response }) h.view, h.medium⟩

end Alike

/-! ## Restoring -/

/-- Alike media restore to alike vaults, or both fail to. -/
theorem restore_alike {first second : RamMedium records capacity} (h : first.Alike second)
    (now : Instant) (schedule : BackoffSchedule) (least : Severity) :
    (∃ refusal, restore first now schedule least = .error refusal ∧
      restore second now schedule least = .error refusal) ∨
    (∃ one two, restore first now schedule least = .ok one ∧
      restore second now schedule least = .ok two ∧ one.Alike two) := by
  by_cases hvalid : schedule.Valid
  · rw [restore_of_valid first now hvalid, restore_of_valid second now hvalid]
    -- the slots that are found can only be told apart by their keys and values
    have hfound : (found first).map (Vector.map (Option.map Slot.wipe)) =
        (found second).map (Vector.map (Option.map Slot.wipe)) := by
      rw [found, found, map_ofFnM, map_ofFnM]
      exact congrArg Vector.ofFnM (funext h.shown)
    cases hone : found first with
    | error refusal =>
      cases htwo : found second with
      | error refusal' =>
        rw [hone, htwo] at hfound
        cases hfound
        exact Or.inl ⟨refusal, rfl, rfl⟩
      | ok slots' =>
        rw [hone, htwo] at hfound
        cases hfound
    | ok slots =>
      cases htwo : found second with
      | error refusal' =>
        rw [hone, htwo] at hfound
        cases hfound
      | ok slots' =>
        rw [hone, htwo] at hfound
        refine Or.inr ⟨_, _, rfl, rfl, ?_, h⟩
        rw [view_asFound, view_asFound second, Except.ok.inj hfound]
        rfl
  · have hvalidate : schedule.validate = .error .malformed := if_neg hvalid
    refine Or.inl ⟨.malformed, ?_, ?_⟩ <;>
      rw [restore, hvalidate] <;> rfl

/-! ## Commands -/

/-- Two commands ended with one result and left alike vaults. -/
def EndAlike (one two : Except Refusal Unit × Vault (RamMedium records capacity)) : Prop :=
  (∃ after after', one = (.ok (), after) ∧ two = (.ok (), after') ∧ after.Alike after') ∨
  (∃ refusal after after', one = (.error refusal, after) ∧ two = (.error refusal, after') ∧
    after.Alike after')

theorem argument_alike {n : Nat} {data other : Bytes} (h : data.length = other.length) :
    (∃ a b : Block n, argument n data = .ok a ∧ argument n other = .ok b) ∨
      (argument n data = .error .wrongLength ∧ argument n other = .error .wrongLength) := by
  rcases argument_cases n data with ⟨a, rfl, ha⟩ | ⟨hne, hdata⟩
  · have hlength : other.length = n := h.symm.trans a.length_bytes
    exact Or.inl ⟨a, ⟨other, hlength⟩, ha, argument_bytes ⟨other, hlength⟩⟩
  · rcases argument_cases n other with ⟨b, rfl, -⟩ | ⟨-, hother⟩
    · exact absurd (h.trans b.length_bytes) hne
    · exact Or.inr ⟨hdata, hother⟩

/-- Arguments of one length pass the checks or fail them alike. -/
theorem checked_alike (raw : UInt32) {one one' two two' : Bytes} (hone : one.length = one'.length)
    (htwo : two.length = two'.length) :
    (∃ (index : SlotIndex) (a b a' b' : Block 16),
      checked raw one two = .ok (index, a, b) ∧ checked raw one' two' = .ok (index, a', b')) ∨
    (∃ refusal, checked raw one two = .error refusal ∧ checked raw one' two' = .error refusal) := by
  unfold checked
  cases SlotIndex.ofRaw raw with
  | error refusal => exact Or.inr ⟨refusal, rfl, rfl⟩
  | ok index =>
    rcases argument_alike hone with ⟨a, a', ha, ha'⟩ | ⟨ha, ha'⟩
    · rcases argument_alike htwo with ⟨b, b', hb, hb'⟩ | ⟨hb, hb'⟩
      · rw [ha, hb, ha', hb']
        exact Or.inl ⟨index, a, b, a', b', rfl, rfl⟩
      · rw [ha, hb, ha', hb']
        exact Or.inr ⟨.wrongLength, rfl, rfl⟩
    · rw [ha, ha']
      exact Or.inr ⟨.wrongLength, rfl, rfl⟩

theorem writeSlot_alike (h : first.Alike second) (now : Instant) (index : SlotIndex)
    (key key' : SlotKey) (value value' : SlotValue) :
    EndAlike (first.writeSlot now index key value) (second.writeSlot now index key' value') := by
  have hholding : (Slot.holding key value).wipe = (Slot.holding key' value').wipe := rfl
  unfold writeSlot Slot.write
  rcases Slot.replace_alike (first.slot index) (second.slot index) h.medium index hholding
    UInt16.zero_le with ⟨one, two, hone, htwo, halike⟩ | ⟨refusal, hone, htwo⟩
  · rw [hone, htwo]
    exact Or.inl ⟨_, _, rfl, rfl, (h.keep index ⟨hholding, halike⟩).record now _⟩
  · rw [hone, htwo]
    exact Or.inr ⟨refusal, _, _, rfl, rfl, h.keep index ⟨h.slot index, h.medium⟩⟩

theorem eraseSlot_alike (h : first.Alike second) (index : SlotIndex) :
    EndAlike (first.eraseSlot index) (second.eraseSlot index) := by
  have herased : Slot.erased.wipe = Slot.erased.wipe := rfl
  unfold eraseSlot Slot.erase
  rcases Slot.replace_alike (first.slot index) (second.slot index) h.medium index herased
    UInt16.zero_le with ⟨one, two, hone, htwo, halike⟩ | ⟨refusal, hone, htwo⟩
  · rw [hone, htwo]
    exact Or.inl ⟨_, _, rfl, rfl, h.keep index ⟨herased, halike⟩⟩
  · rw [hone, htwo]
    exact Or.inr ⟨refusal, _, _, rfl, rfl, h.keep index ⟨h.slot index, h.medium⟩⟩

/-- The passes over the slots of alike vaults stop at the same slot, if they stop. -/
theorem eraseEach_alike (indices : List SlotIndex) (h : first.Alike second) :
    EndAlike (eraseEach indices first) (eraseEach indices second) := by
  induction indices generalizing first second with
  | nil => exact Or.inl ⟨first, second, rfl, rfl, h⟩
  | cons index rest ih =>
    unfold eraseEach
    rcases eraseSlot_alike h index with
      ⟨one, two, hone, htwo, hafter⟩ | ⟨refusal, one, two, hone, htwo, hafter⟩
    · rw [hone, htwo]
      exact ih hafter
    · rw [hone, htwo]
      exact Or.inr ⟨refusal, one, two, rfl, rfl, hafter⟩

/-- Reads of alike vaults come to the same if both keys are right or both wrong, or the slot is
throttled. -/
theorem readSlot_alike (h : first.Alike second) {now : Instant} (index : SlotIndex)
    {key key' : SlotKey} (hkey : (first.slot index).deadline ≤ now →
      ((first.slot index).key = key ↔ (second.slot index).key = key')) :
    (first.readSlot now index key).1.Alike (second.readSlot now index key').1 ∧
      (first.readSlot now index key).2.Alike (second.readSlot now index key').2 := by
  obtain ⟨hattempt, hout⟩ :=
    Slot.read_alike (h.slot index) h.medium index hkey first.schedule
  unfold readSlot
  rw [← h.schedule]
  generalize (first.slot index).read first.medium index key now first.schedule = one
    at hattempt hout
  generalize (second.slot index).read second.medium index key' now first.schedule = two
    at hattempt hout
  obtain ⟨⟨result, kept, response⟩, out⟩ := one
  obtain ⟨⟨result', kept', response'⟩, out'⟩ := two
  obtain ⟨hresult, hkept, hresponse⟩ := hattempt
  obtain rfl : result = result' := hresult
  obtain rfl : response = response' := hresponse
  have hfailures : kept.slot.failures = kept'.slot.failures :=
    (Slot.wipe_eq_wipe_iff.mp hkept.slot).1
  refine ⟨⟨rfl, fun hrefused => ?_⟩, ?_⟩
  · cases result with
    | ok grant => exact absurd rfl hrefused
    | error refusal => exact congrArg Block.bytes (hout rfl)
  · -- the event names the failure count and the result, and both are the same
    simp only [hfailures]
    exact ((h.keep index hkept).respond response).record now _

/-- What a command finds out about a key: whether it is the key of the slot that is read.  Only a
read that passes the checks and meets an open slot finds out anything. -/
def verdict {μ : Type} (vault : Vault μ) (now : Instant) : VaultCommand → Option Bool
  | .read raw key out =>
    match checked raw key out with
    | .ok (index, key, _) =>
      if (vault.slot index).deadline ≤ now then some ((vault.slot index).key = key) else none
    | .error _ => none
  | .write _ _ _ | .erase _ | .eraseAll => none

theorem write_alike (h : first.Alike second) (now : Instant) (raw : UInt32)
    {key key' value value' : Bytes} (hkey : key.length = key'.length)
    (hvalue : value.length = value'.length) :
    EndAlike (first.write now raw key value) (second.write now raw key' value') := by
  rw [write_eq, write_eq]
  rcases checked_alike raw hkey hvalue with
    ⟨index, a, b, a', b', hone, htwo⟩ | ⟨refusal, hone, htwo⟩
  · rw [hone, htwo]
    exact writeSlot_alike h now index a a' b b'
  · rw [hone, htwo]
    exact Or.inr ⟨refusal, first, second, rfl, rfl, h⟩

theorem read_alike (h : first.Alike second) {now : Instant} (raw : UInt32) {key key' : Bytes}
    (out : Bytes) (hkey : key.length = key'.length)
    (hverdict : ∀ right ∈ first.verdict now (.read raw key out),
      ∀ right' ∈ second.verdict now (.read raw key' out), right = right') :
    (first.read now raw key out).1.Alike (second.read now raw key' out).1 ∧
      (first.read now raw key out).2.Alike (second.read now raw key' out).2 := by
  simp only [verdict] at hverdict
  rw [read_eq, read_eq]
  rcases checked_alike raw hkey rfl with
    ⟨index, a, b, a', b', hone, htwo⟩ | ⟨refusal, hone, htwo⟩
  · rw [hone, htwo] at hverdict ⊢
    refine readSlot_alike h index fun hopen => ?_
    have hopen' : (second.slot index).deadline ≤ now :=
      (Slot.wipe_eq_wipe_iff.mp (h.slot index)).2 ▸ hopen
    simp only [if_pos hopen, if_pos hopen'] at hverdict
    exact decide_eq_decide.mp (hverdict _ rfl _ rfl)
  · rw [hone, htwo]
    exact ⟨⟨rfl, fun _ => rfl⟩, h⟩

theorem erase_alike (h : first.Alike second) (now : Instant) (raw : UInt32) :
    EndAlike (first.erase now raw) (second.erase now raw) := by
  unfold erase
  cases SlotIndex.ofRaw raw with
  | error refusal => exact Or.inr ⟨refusal, first, second, rfl, rfl, h⟩
  | ok index =>
    rcases eraseSlot_alike h index with
      ⟨one, two, hone, htwo, hafter⟩ | ⟨refusal, one, two, hone, htwo, hafter⟩
    · simp only [hone, htwo]
      exact Or.inl ⟨_, _, rfl, rfl, hafter.record now _⟩
    · simp only [hone, htwo]
      exact Or.inr ⟨refusal, one, two, rfl, rfl, hafter⟩

theorem eraseAll_alike (h : first.Alike second) (now : Instant) :
    EndAlike (first.eraseAll now) (second.eraseAll now) := by
  unfold eraseAll
  rcases eraseEach_alike SlotIndex.all h with
    ⟨one, two, hone, htwo, hafter⟩ | ⟨refusal, one, two, hone, htwo, hafter⟩
  · rw [hone, htwo]
    exact Or.inl ⟨_, _, rfl, rfl, hafter.record now _⟩
  · rw [hone, htwo]
    exact Or.inr ⟨refusal, one, two, rfl, rfl, hafter⟩

/-- A command without a buffer that ends alike is answered alike. -/
theorem EndAlike.reply {one two : Except Refusal Unit × Vault (RamMedium records capacity)}
    (h : EndAlike one two) :
    VaultReply.Alike { result := one.1 } { result := two.1 } ∧ one.2.Alike two.2 := by
  rcases h with ⟨after, after', rfl, rfl, hafter⟩ | ⟨refusal, after, after', rfl, rfl, hafter⟩
  · exact ⟨⟨rfl, fun _ => rfl⟩, hafter⟩
  · exact ⟨⟨rfl, fun _ => rfl⟩, hafter⟩

end Vault

/-- Two commands that differ in keys and values only. -/
inductive VaultCommand.Alike : VaultCommand → VaultCommand → Prop where
  | write (slot : UInt32) {key key' value value' : Bytes} (hkey : key.length = key'.length)
      (hvalue : value.length = value'.length) :
      Alike (.write slot key value) (.write slot key' value')
  | read (slot : UInt32) {key key' : Bytes} (out : Bytes) (hkey : key.length = key'.length) :
      Alike (.read slot key out) (.read slot key' out)
  | erase (slot : UInt32) : Alike (.erase slot) (.erase slot)
  | eraseAll : Alike .eraseAll .eraseAll

namespace Vault

variable {records capacity : Nat} {first second : Vault (RamMedium records capacity)}

/-- Commands that differ in keys and values only are answered alike and leave alike vaults, if they
find out the same about the keys that they present. -/
theorem execute_alike (h : first.Alike second) {command command' : VaultCommand}
    (hcommand : command.Alike command') {now : Instant}
    (hverdict : ∀ right ∈ first.verdict now command, ∀ right' ∈ second.verdict now command',
      right = right') :
    (first.execute now command).1.Alike (second.execute now command').1 ∧
      (first.execute now command).2.Alike (second.execute now command').2 := by
  cases hcommand with
  | write raw hkey hvalue => exact (write_alike h now raw hkey hvalue).reply
  | read raw out hkey => exact read_alike h raw out hkey hverdict
  | erase raw => exact (erase_alike h now raw).reply
  | eraseAll => exact (eraseAll_alike h now).reply

end Vault

end SecureElement
