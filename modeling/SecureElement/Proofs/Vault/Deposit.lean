/-
  SecureElement.Proofs.Vault.Deposit

  What a slot releases.  The past of a session says what was deposited in each slot last; a slot
  releases exactly that, to exactly the key that it was deposited under, through restarts, failed
  commits and erasures that stopped half way.  A read that does not release it gives its caller the
  time to wait or zeros, and a read with the right key succeeds once the slot is open.
-/
import SecureElement.Proofs.Vault.Outcome

namespace SecureElement

/-! ## What the past says -/

/-- A value and the key that it lies under. -/
structure Deposit where
  key : Bytes
  value : Bytes
deriving DecidableEq

namespace Deposit

def empty : Deposit :=
  ⟨List.replicate 16 0, List.replicate 16 0⟩

/-- What a slot holds after a command. -/
def change (held : Deposit) : SlotOutcome → Deposit
  | .deposited key value => ⟨key, value⟩
  | .erased => empty
  | .nothing | .granted | .penalised _ => held

end Deposit

/-- The instant from which a slot is open after a command at `now`. -/
def SlotOutcome.openFrom (now earlier : Instant) : SlotOutcome → Instant
  | .penalised backoff => now.after backoff
  | .deposited _ _ | .erased | .granted => .zero
  | .nothing => earlier

section Past

variable {μ : Type} [Medium μ] [CountedMedium μ]

/-- What was deposited in a slot last.  Nothing is left of it once the slot was erased. -/
def Deposit.latest (index : SlotIndex) : List (VaultDeed μ) → Deposit
  | [] => empty
  | deed :: earlier => (latest index earlier).change (deed.outcome index)

/-- The instant from which a slot is open: the end of the backoff that was answered last, or the
first instant if its throttling was cleared since. -/
def VaultDeed.openFrom (index : SlotIndex) : List (VaultDeed μ) → Instant
  | [] => .zero
  | deed :: earlier => (deed.outcome index).openFrom deed.instant (openFrom index earlier)

end Past

/-! ## What a slot holds -/

/-- A slot holds a deposit and is open from an instant on. -/
structure Slot.Holds (slot : Slot) (held : Deposit) (opening : Instant) : Prop where
  key : slot.key.bytes = held.key
  value : slot.value.bytes = held.value
  deadline : slot.deadline = opening

namespace Slot

theorem holds_erased : erased.Holds .empty .zero :=
  ⟨rfl, rfl, rfl⟩

/-- Every outcome changes what a slot holds as it says. -/
theorem Effect.holds {now opening : Instant} {schedule : BackoffSchedule} {before after : Slot}
    {outcome : SlotOutcome} {held : Deposit} (heffect : Effect now schedule before outcome after)
    (h : before.Holds held opening) :
    after.Holds (held.change outcome) (outcome.openFrom now opening) := by
  obtain ⟨hkey, hvalue, hdeadline⟩ := h
  -- throttling changes the deadline, deposits and erasures everything
  cases heffect with
  | nothing => exact ⟨hkey, hvalue, hdeadline⟩
  | deposited key value => exact ⟨rfl, rfl, rfl⟩
  | erased => exact holds_erased
  | granted hopen => exact ⟨hkey, hvalue, rfl⟩
  | penalised hopen => exact ⟨hkey, hvalue, rfl⟩

end Slot

/-! ## What a read gives -/

namespace Vault

variable {μ : Type} [Medium μ]

/-- A read that succeeds was made with the slot's key, and it gives the slot's value. -/
theorem read_released {vault : Vault μ} {now : Instant} {raw : UInt32} {index : SlotIndex}
    (hraw : raw.toNat = index.val) {key out : Bytes}
    (h : (vault.read now raw key out).1.result = .ok ()) :
    key = (vault.slot index).key.bytes ∧
      (vault.read now raw key out).1.out = (vault.slot index).value.bytes := by
  rcases read_cases vault now raw key out with
    ⟨named, slotKey, hnamed, hkey, heq⟩ | ⟨refusal, -, heq⟩
  · have hindex : named = index := Fin.ext (hnamed.symm.trans hraw)
    subst hindex
    obtain ⟨reading, hcase, hread⟩ := readSlot_cases vault now named slotKey
    rw [heq, hread] at h ⊢
    cases hcase with
    | throttled | notCleared | recorded | notRecorded => cases h
    | clean hopen hmatch hclean => exact ⟨by rw [hkey, hmatch], rfl⟩
    | cleared grant after hopen hmatch hsave => exact ⟨by rw [hkey, hmatch], rfl⟩
  · rw [heq] at h
    cases h

/-- A read with well-formed arguments that is refused gives the time to wait, or zeros if the medium
is to blame. -/
theorem read_withheld {vault : Vault μ} {now : Instant} {raw : UInt32} {index : SlotIndex}
    (hraw : raw.toNat = index.val) {key out : Bytes} {refusal : Refusal}
    (hkey : key.length = 16) (hout : out.length = 16)
    (h : (vault.read now raw key out).1.result = .error refusal) :
    (∃ wait : Duration, (refusal = .wrongKey wait ∨ refusal = .throttled wait) ∧
      (vault.read now raw key out).1.out = wait.toResponse.bytes) ∨
    (∃ error : MediumError, refusal = error.toRefusal ∧
      (vault.read now raw key out).1.out = List.replicate 16 0) := by
  have heq := read_eq_readSlot vault now hraw ⟨key, hkey⟩ ⟨out, hout⟩
  obtain ⟨reading, hcase, hread⟩ := readSlot_cases vault now index ⟨key, hkey⟩
  simp only [heq, hread] at h ⊢
  -- the response is the time to wait for a throttled slot and for a failure that was recorded
  cases hcase with
  | throttled hwait =>
    cases h
    exact Or.inl ⟨_, Or.inr rfl, rfl⟩
  | clean | cleared => cases h
  | notCleared error =>
    cases h
    exact Or.inr ⟨error, rfl, rfl⟩
  | recorded after =>
    cases h
    exact Or.inl ⟨_, Or.inl rfl, rfl⟩
  | notRecorded error =>
    cases h
    exact Or.inr ⟨error, rfl, rfl⟩

/-- A read with the slot's key succeeds once the slot is open, if the medium takes the cleared
slot. -/
theorem read_isOk {vault : Vault μ} {now : Instant} {raw : UInt32} {index : SlotIndex}
    (hraw : raw.toNat = index.val) {out : Bytes} (hout : out.length = 16)
    (hopen : (vault.slot index).deadline ≤ now)
    (haccepts : ∃ after,
      Persistent.save vault.medium index.record (vault.slot index).cleared = .ok after) :
    (vault.read now raw (vault.slot index).key.bytes out).1.result = .ok () := by
  have heq := read_eq_readSlot vault now hraw (vault.slot index).key ⟨out, hout⟩
  obtain ⟨reading, hcase, hread⟩ := readSlot_cases vault now index (vault.slot index).key
  simp only [heq, hread]
  cases hcase with
  | throttled hwait => exact absurd hopen (UInt64.not_le.mpr hwait)
  | clean | cleared => rfl
  | notCleared error _ _ hsave =>
    obtain ⟨after, hok⟩ := haccepts
    rw [hok] at hsave
    cases hsave
  | recorded _ _ hkey | notRecorded _ _ hkey => exact absurd rfl hkey

end Vault

/-! ## Sessions -/

namespace VaultSession

section Blank

variable {μ : Type} [Medium μ] [CountedMedium μ]

/-- The slot that a medium has holds what the past says was deposited last. -/
def TellsDeposit (index : SlotIndex) (past : List (VaultDeed μ))
    (found : Except MediumError Slot) : Prop :=
  ∀ slot, found = .ok slot →
    slot.Holds (.latest index past) (VaultDeed.openFrom index past)

/-- In a session that began on a blank medium, the slots of the open vault hold what was deposited
last. -/
theorem holds_latest_of_blank [LawfulMedium μ] {medium : μ}
    (hblank : ∀ id image, Medium.load medium id Persistent.maxImageSize ≠ .ok (some image))
    (clock : SteppedClock) (steps : List (VaultStep μ)) (index : SlotIndex) :
    let session : VaultSession μ := .after medium clock steps
    ∀ vault, session.component? = some vault → vault.Synced ∧
      (vault.slot index).Holds (.latest index session.past)
        (VaultDeed.openFrom index session.past) := by
  intro session vault hvault
  have huses : ∀ step ∈ steps, Uses (fun _ => True) step := by
    intro step _
    cases step <;> trivial
  have hcarries : ∀ past (deed : VaultDeed μ), True →
      TellsDeposit index past (.ok (deed.before.slot index)) →
        TellsDeposit index (deed :: past) (.ok (deed.after.slot index)) := by
    intro past deed _ h slot hslot
    rw [← Except.ok.inj hslot]
    exact (deed.effect index).holds (h _ rfl)
  have hstart : TellsDeposit index ([] : List (VaultDeed μ)) (Slot.recovered medium index) := by
    intro slot hslot
    rw [Persistent.eq_of_recovered_blank (hblank index.record) hslot]
    exact Slot.holds_erased
  obtain ⟨hsynced, hholds⟩ := (tells_slot index (TellsDeposit index) hcarries hstart clock
    huses).2 vault hvault
  exact ⟨hsynced, hholds (vault.slot index) rfl⟩

end Blank

/-! ## Sessions on a medium in working memory -/

variable {records capacity : Nat}

/-- In a session that began on an empty medium, the slots of the open vault hold what was deposited
last. -/
theorem holds_latest (clock : SteppedClock) (steps : List (VaultStep (RamMedium records capacity)))
    (index : SlotIndex) :
    let session : VaultSession (RamMedium records capacity) := .after .empty clock steps
    ∀ vault, session.component? = some vault → vault.Synced ∧
      (vault.slot index).Holds (.latest index session.past)
        (VaultDeed.openFrom index session.past) :=
  holds_latest_of_blank (fun id => RamMedium.load_empty_ne id _) clock steps index

/-- A slot of the open vault is a record of the medium. -/
theorem known_of_synced {vault : Vault (RamMedium records capacity)} (h : vault.Synced)
    (index : SlotIndex) : index.record.index < records := by
  have hrecovered := h index
  unfold Slot.recovered Persistent.recovered Persistent.load at hrecovered
  rw [if_neg (by decide)] at hrecovered
  cases hload : Medium.load vault.medium index.record Persistent.maxImageSize with
  | error error =>
    rw [hload] at hrecovered
    cases hrecovered
  | ok image => exact RamMedium.known_of_load hload

/-- A vault releases a value only to the key that it was deposited under, and it releases exactly
what was deposited last: in every session that began on an empty medium, whatever was written,
read, erased, reopened or lost before.  A refused read gives the time to wait, or zeros if the
medium is to blame; and the right key is refused only while the slot is throttled or the medium
takes no commits. -/
theorem read_latest_deposit (clock : SteppedClock)
    (steps : List (VaultStep (RamMedium records capacity)))
    {vault : Vault (RamMedium records capacity)}
    (hvault : (Session.after .empty clock steps : VaultSession _).component? = some vault)
    {raw : UInt32} {index : SlotIndex} (hraw : raw.toNat = index.val) (key out : Bytes) :
    let session : VaultSession _ := .after .empty clock steps
    let held := Deposit.latest index session.past
    let reply := (vault.execute session.clock.now (.read raw key out)).1
    (reply.result = .ok () → key = held.key ∧ reply.out = held.value) ∧
    (∀ refusal, reply.result = .error refusal → key.length = 16 → out.length = 16 →
      (∃ wait : Duration, (refusal = .wrongKey wait ∨ refusal = .throttled wait) ∧
        reply.out = wait.toResponse.bytes) ∨
      (∃ error : MediumError, refusal = error.toRefusal ∧ reply.out = List.replicate 16 0)) ∧
    (key = held.key → out.length = 16 →
      VaultDeed.openFrom index session.past ≤ session.clock.now →
      vault.medium.budget ≠ some 0 → Persistent.imageSize Slot ≤ capacity →
      reply.result = .ok ()) := by
  intro session held reply
  obtain ⟨hsynced, hkey, hvalue, hdeadline⟩ := holds_latest clock steps index vault hvault
  refine ⟨fun hok => ?_, fun refusal herror hkeyLength houtLength => ?_,
    fun hright houtLength hopen hbudget hfits => ?_⟩
  · obtain ⟨hmatch, hout⟩ := Vault.read_released hraw hok
    exact ⟨hmatch.trans hkey, hout.trans hvalue⟩
  · exact Vault.read_withheld hraw hkeyLength houtLength herror
  · -- the slot in memory has the deposit's key, so the key matches, and the medium takes the commit
    have hmatch : key = (vault.slot index).key.bytes := hright.trans hkey.symm
    have hlength := Persistent.length_image (vault.slot index).cleared
    obtain ⟨after, hcommit⟩ := RamMedium.commit_isOk (known_of_synced hsynced index)
      (Nat.le_trans (Nat.le_of_eq hlength) hfits) hbudget
    have hsave : Persistent.save vault.medium index.record (vault.slot index).cleared =
        .ok after := by
      rw [Persistent.save, if_neg (by decide)]
      exact hcommit
    rw [← hdeadline] at hopen
    subst hmatch
    exact Vault.read_isOk hraw houtLength hopen ⟨after, hsave⟩

def slotThree : SlotIndex :=
  ⟨3, by decide⟩

/-- A value is deposited in slot 3, a wrong key is presented, and an erasure fails for want of a
commit. -/
def rehearsal : List (VaultStep (RamMedium 64 46)) :=
  [.reopen ⟨{}, .standard⟩,
    .command (.write 3 (List.replicate 16 7) (List.replicate 16 9)),
    .command (.read 3 (List.replicate 16 8) (List.replicate 16 0)),
    .befall (RamMedium.shortage 0), .command (.erase 3), .befall RamMedium.relief]

def rehearsed : VaultSession (RamMedium 64 46) :=
  .after .empty {} rehearsal

/-- The value is still released to its key afterwards. -/
theorem read_latest_deposit_rehearsed :
    ∃ vault, rehearsed.component? = some vault ∧ (3 : UInt32).toNat = slotThree.val ∧
      let reply := (vault.execute rehearsed.clock.now
        (.read 3 (List.replicate 16 7) (List.replicate 16 0))).1
      reply.result = .ok () ∧ reply.out = List.replicate 16 9 := by
  have hthree : (3 : UInt32).toNat = slotThree.val := rfl
  have hlatest : Deposit.latest slotThree rehearsed.past =
      ⟨List.replicate 16 7, List.replicate 16 9⟩ := by decide +kernel
  have hopen : VaultDeed.openFrom slotThree rehearsed.past ≤ rehearsed.clock.now := by
    decide +kernel
  have hbudget : rehearsed.component?.map (fun vault => vault.medium.budget) = some none := by
    decide +kernel
  obtain ⟨vault, hvault, hnone⟩ := Option.map_eq_some_iff.mp hbudget
  obtain ⟨hreleased, -, hright⟩ := read_latest_deposit {} rehearsal hvault hthree
    (List.replicate 16 7) (List.replicate 16 0)
  have hkey := congrArg Deposit.key hlatest
  have hvalue := congrArg Deposit.value hlatest
  have hok := hright hkey.symm rfl hopen (by rw [hnone]; exact nofun) (by decide)
  exact ⟨vault, hvault, hthree, hok, (hreleased hok).2.trans hvalue⟩

end VaultSession

end SecureElement
