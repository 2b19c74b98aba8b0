/-
  SecureElement.Proofs.Vault.Lockout

  How long a slot can be locked.  Whatever happened to a vault, the failure count of a slot announces
  how long the slot refuses attempts at most: its deadline is no further away than the backoff of the
  count, and a slot without failures is open.  So the time that a throttled read is told to wait is
  bounded by that backoff, and after it the right key is accepted.
-/
import SecureElement.Proofs.Backoff.Schedule
import SecureElement.Proofs.Vault.Throttling

namespace SecureElement

/-! ## What a failure count announces -/

/-- The deadline of a slot is no further away than the backoff of its failure count. -/
structure Slot.Announced (schedule : BackoffSchedule) (now : Instant) (slot : Slot) : Prop where
  failures_le : slot.failures.toNat ≤ maxFailures.toNat
  opened : slot.failures = 0 → slot.deadline = .zero
  deadline_le : slot.deadline.ms.toNat ≤
    min Instant.maxMs (now.ms.toNat + (schedule.backoff slot.failures).ms.toNat)

namespace Slot

variable {schedule : BackoffSchedule} {now : Instant}

/-- A slot without any throttling announces nothing. -/
theorem announced_of_unthrottled {slot : Slot} (hfailures : slot.failures = 0)
    (hdeadline : slot.deadline = .zero) : slot.Announced schedule now where
  failures_le := by
    rw [hfailures]
    exact Nat.zero_le _
  opened _ := hdeadline
  deadline_le := by
    rw [hdeadline]
    exact Nat.zero_le _

/-- A slot that was just penalised is locked for as long as its new count announces. -/
theorem announced_penalised (slot : Slot) {instant : Instant} (hnow : instant ≤ now) :
    (slot.penalised instant schedule).Announced schedule now where
  failures_le := failures_penalised_le slot instant schedule
  opened hzero := by
    -- the count has gone up, so it is not zero
    have hcount := toNat_failures_penalised slot instant schedule
    have hmax : maxFailures.toNat = 32767 := rfl
    rw [hzero] at hcount
    have hnone : (0 : UInt16).toNat = 0 := rfl
    omega
  deadline_le := by
    have hle := Instant.le_iff.mp hnow
    have hdeadline : (slot.penalised instant schedule).deadline =
        instant.after (schedule.backoff (slot.penalised instant schedule).failures) := rfl
    rw [hdeadline, Instant.toNat_after]
    omega

/-- Every outcome leaves a slot that announces how long it is locked. -/
theorem Effect.announced {instant : Instant} {before after : Slot} {outcome : SlotOutcome}
    (heffect : Effect instant schedule before outcome after) (hnow : instant ≤ now)
    (h : before.Announced schedule now) : after.Announced schedule now := by
  cases heffect with
  | nothing => exact h
  | deposited | erased | granted => exact announced_of_unthrottled rfl rfl
  | penalised => exact announced_penalised before hnow

end Slot

/-! ## Reads of a throttled slot -/

namespace Vault

variable {μ : Type} [Medium μ]

/-- A read that is told to wait was about a slot that is locked, and it is told the time left. -/
theorem of_read_throttled {vault : Vault μ} {now : Instant} {raw : UInt32} {index : SlotIndex}
    (hraw : raw.toNat = index.val) {key out : Bytes} {left : Duration}
    (h : (vault.read now raw key out).1.result = .error (.throttled left)) :
    now < (vault.slot index).deadline ∧ left = (vault.slot index).remaining now := by
  rcases read_cases vault now raw key out with
    ⟨named, slotKey, hnamed, -, heq⟩ | ⟨refusal, hcheck, heq⟩
  · have hindex : named = index := Fin.ext (hnamed.symm.trans hraw)
    subst hindex
    obtain ⟨reading, hcase, hread⟩ := readSlot_cases vault now named slotKey
    rw [heq, hread] at h
    cases hcase with
    | throttled hwait =>
      cases h
      exact ⟨hwait, rfl⟩
    | clean | cleared | recorded => cases h
    | notCleared error | notRecorded error => cases error <;> cases h
  · rw [heq] at h
    rcases hcheck with rfl | rfl <;> cases h

end Vault

/-! ## Sessions -/

/-- Whether a wrong key was recorded. -/
def SlotOutcome.isPenalised : SlotOutcome → Bool
  | penalised _ => true
  | nothing | deposited _ _ | erased | granted => false

namespace VaultDeed

variable {μ : Type} [Medium μ]

/-- The commands that were carried out after those of an earlier past. -/
def since (past later : List (VaultDeed μ)) : List (VaultDeed μ) :=
  later.take (later.length - past.length)

omit [Medium μ] in
theorem since_append (newer past : List (VaultDeed μ)) : since past (newer ++ past) = newer := by
  rw [since, List.length_append, Nat.add_sub_cancel, List.take_left]

/-- Unless a wrong key is recorded, a slot is open from the same instant on, or at once. -/
theorem openFrom_append [CountedMedium μ] {index : SlotIndex} {newer past : List (VaultDeed μ)}
    (h : ∀ deed ∈ newer, (outcome deed index).isPenalised = false) :
    openFrom index (newer ++ past) = .zero ∨
      openFrom index (newer ++ past) = openFrom index past := by
  induction newer with
  | nil => exact Or.inr rfl
  | cons deed rest ih =>
    have hrest := ih fun other hother => h other (List.mem_cons_of_mem _ hother)
    have hdeed := h deed List.mem_cons_self
    show (outcome deed index).openFrom deed.instant (openFrom index (rest ++ past)) = _ ∨
      (outcome deed index).openFrom deed.instant (openFrom index (rest ++ past)) = _
    cases houtcome : outcome deed index with
    | nothing => exact hrest
    | deposited | erased | granted => exact Or.inl rfl
    | penalised backoff =>
      rw [houtcome] at hdeed
      cases hdeed

end VaultDeed

namespace VaultSession

open VaultDeed

variable {μ : Type} [Medium μ] [CountedMedium μ] [LawfulMedium μ] {medium : μ}

/-- In a session with one schedule that began on a blank medium, each slot of the open vault
announces how long it is locked. -/
theorem announced
    (hblank : ∀ id image, Medium.load medium id Persistent.maxImageSize ≠ .ok (some image))
    (clock : SteppedClock) {schedule : BackoffSchedule} {steps : List (VaultStep μ)}
    (hsteps : ∀ step ∈ steps, Uses (· = schedule) step) {vault : Vault μ}
    (hvault : (Session.after medium clock steps : VaultSession μ).component? = some vault)
    (index : SlotIndex) :
    (vault.slot index).Announced schedule
      (Session.after medium clock steps : VaultSession μ).clock.now := by
  -- carried on: the slot announces its lock at every instant that no command of the past comes after
  obtain ⟨-, hopened⟩ := tells_slot index
    (fun past found => ∀ slot, found = .ok slot → ∀ now : Instant,
      (∀ deed ∈ past, deed.instant ≤ now) → slot.Announced schedule now)
    (fun past deed hschedule h slot hslot now hpast => by
      have heffect := deed.effect index
      rw [hschedule, Except.ok.inj hslot] at heffect
      have hbefore := h _ rfl now fun other hother => hpast other (List.mem_cons_of_mem _ hother)
      exact heffect.announced (hpast deed List.mem_cons_self) hbefore)
    (fun slot hslot now _ => by
      rw [Persistent.eq_of_recovered_blank (hblank index.record) hslot]
      exact Slot.announced_of_unthrottled rfl rfl)
    clock hsteps
  exact (hopened vault hvault).2 _ rfl _ (Session.instant_le_now medium clock steps)

/-- No slot is locked for longer than its failure count announces.  In every session that opens its
vault with one schedule and began on a blank medium: the failure count is in range, a slot without
failures has no deadline, and a deadline is no further away than the backoff of the count, which is
no longer than the ceiling.  So a read that is told to wait is told to wait for no longer than that;
and whatever follows, once this time has passed the slot's key is accepted, provided that no other
wrong key was recorded by then and that the medium takes the cleared slot. -/
theorem lockout_announced
    (hblank : ∀ id image, Medium.load medium id Persistent.maxImageSize ≠ .ok (some image))
    (clock : SteppedClock) (schedule : BackoffSchedule) {steps : List (VaultStep μ)}
    (hsteps : ∀ step ∈ steps, Uses (· = schedule) step) {vault : Vault μ}
    (hvault : (Session.after medium clock steps : VaultSession μ).component? = some vault)
    (index : SlotIndex) :
    let session : VaultSession μ := .after medium clock steps
    let slot := vault.slot index
    let announced := (schedule.backoff slot.failures).ms.toNat
    slot.failures.toNat ≤ 0x7FFF ∧
    (slot.failures = 0 → slot.deadline = .zero) ∧
    slot.deadline.ms.toNat ≤ min Instant.maxMs (session.clock.now.ms.toNat + announced) ∧
    announced ≤ schedule.ceiling.ms.toNat ∧
    ∀ raw key out left, raw.toNat = index.val →
      (vault.execute session.clock.now (.read raw key out)).1.result = .error (.throttled left) →
      left.ms.toNat ≤ announced ∧
      ∀ (more : List (VaultStep μ)) (later : Vault μ),
        let lateSession : VaultSession μ := .after medium clock (steps ++ more)
        lateSession.component? = some later →
        session.clock.now.ms.toNat + left.ms.toNat ≤ lateSession.clock.now.ms.toNat →
        (∀ deed ∈ since session.past lateSession.past,
          (outcome deed index).isPenalised = false) →
        (∃ after, Persistent.save later.medium index.record (later.slot index).cleared =
          .ok after) →
        ∀ raw' out', raw'.toNat = index.val → out'.length = 16 →
          (later.execute lateSession.clock.now
            (.read raw' (later.slot index).key.bytes out')).1.result = .ok () := by
  intro session slot announced
  obtain ⟨hfailures, hopened, hdeadline⟩ :=
    VaultSession.announced hblank clock hsteps hvault index
  refine ⟨hfailures, hopened, hdeadline, schedule.backoff_le_ceiling _, ?_⟩
  intro raw key out left hraw hthrottled
  obtain ⟨hwait, rfl⟩ := Vault.of_read_throttled hraw hthrottled
  have hleft : (slot.remaining session.clock.now).ms.toNat =
      min Duration.maxMs (slot.deadline.ms.toNat - session.clock.now.ms.toNat) :=
    Instant.toNat_remaining _ _
  have hannounced : slot.deadline.ms.toNat ≤ session.clock.now.ms.toNat + announced :=
    Nat.le_trans hdeadline (Nat.min_le_right _ _)
  have hspan : announced ≤ Duration.maxMs := Duration.toNat_ms_le _
  have hbound : (slot.remaining session.clock.now).ms.toNat ≤ announced := by omega
  -- the time left fits a duration, so it is exactly the time to the deadline
  have hexact : slot.deadline.ms.toNat ≤
      session.clock.now.ms.toNat + (slot.remaining session.clock.now).ms.toNat := by omega
  refine ⟨hbound, ?_⟩
  intro more later lateSession hlater hpassed hnone haccepts raw' out' hraw' hout'
  -- the slot is open from the same instant on as before, or its throttling was cleared meanwhile
  obtain ⟨-, -, -, hfrom⟩ := holds_latest_of_blank hblank clock steps index vault hvault
  obtain ⟨-, -, -, hlate⟩ :=
    holds_latest_of_blank hblank clock (steps ++ more) index later hlater
  obtain ⟨newer, hpast⟩ := Session.exists_past_eq_append session more
  have hafter : lateSession.past = newer ++ session.past := by
    rw [← hpast]
    exact congrArg Session.past List.foldl_append
  have hopen : (later.slot index).deadline ≤ lateSession.clock.now := by
    rw [hlate, hafter, Instant.le_iff]
    rw [hafter, since_append] at hnone
    rcases openFrom_append hnone with hzero | hsame
    · rw [hzero]
      exact Nat.zero_le _
    · rw [hsame, ← hfrom]
      exact Nat.le_trans hexact hpassed
  exact Vault.read_isOk hraw' hout' hopen haccepts

/-! ### A slot that is locked and opens again -/

/-- A value is deposited in slot 3 and a wrong key is presented, which costs a second; 400
milliseconds later another key is tried. -/
def locking : List (VaultStep (RamMedium 64 46)) :=
  [.reopen ⟨impatient, .standard⟩,
    .command (.write 3 (List.replicate 16 7) (List.replicate 16 9)),
    .command (.read 3 (List.replicate 16 8) (List.replicate 16 0)), .wait ⟨400⟩]

/-- The slot is tried once more, the vault is opened again, and the rest of the second passes. -/
def unlocking : List (VaultStep (RamMedium 64 46)) :=
  [.command (.read 3 (List.replicate 16 7) (List.replicate 16 0)), .wait ⟨999⟩,
    .reopen ⟨impatient, .standard⟩, .command (.erase 4), .wait ⟨1000⟩]

/-- The key that is tried too early is told to wait for 600 milliseconds; after them it is accepted. -/
theorem lockout_announced_unlocking :
    ∃ vault later : Vault (RamMedium 64 46),
      (Session.after .empty {} locking : VaultSession _).component? = some vault ∧
      (Session.after .empty {} (locking ++ unlocking) : VaultSession _).component? = some later ∧
      (vault.execute ⟨400⟩ (.read 3 (List.replicate 16 7) (List.replicate 16 0))).1.result =
        .error (.throttled ⟨600⟩) ∧
      (600 : UInt32).toNat ≤ (impatient.backoff (vault.slot slotThree).failures).ms.toNat ∧
      (later.execute ⟨1000⟩ (.read 3 (later.slot slotThree).key.bytes
        (List.replicate 16 0))).1.result = .ok () := by
  let early : VaultSession (RamMedium 64 46) := .after .empty {} locking
  let late : VaultSession (RamMedium 64 46) := .after .empty {} (locking ++ unlocking)
  have huses : ∀ step ∈ locking, Uses (· = impatient) step := by
    simp [locking, Uses]
  have hearly : (early.component?.map fun vault => (vault.execute ⟨400⟩
      (.read 3 (List.replicate 16 7) (List.replicate 16 0))).1.result, early.clock.now) =
        (some (.error (.throttled ⟨600⟩)), ⟨400⟩) := by
    decide +kernel
  have hlate : (late.component?.map fun later =>
      (Persistent.save later.medium slotThree.record (later.slot slotThree).cleared).isOk,
        late.clock.now,
        (since early.past late.past).all fun deed => !(outcome deed slotThree).isPenalised) =
          (some true, ⟨1000⟩, true) := by
    decide +kernel
  simp only [Prod.mk.injEq] at hearly hlate
  obtain ⟨hrefused, hnow⟩ := hearly
  obtain ⟨haccepts, hnext, hnone⟩ := hlate
  obtain ⟨vault, hvault, hthrottled⟩ := Option.map_eq_some_iff.mp hrefused
  obtain ⟨later, hlater, hsaved⟩ := Option.map_eq_some_iff.mp haccepts
  obtain ⟨-, -, -, -, hreads⟩ := lockout_announced (fun id => RamMedium.load_empty_ne id _) {}
    impatient huses hvault slotThree
  rw [hnow] at hreads
  obtain ⟨hbound, hopens⟩ := hreads 3 (List.replicate 16 7) (List.replicate 16 0) ⟨600⟩
    (by decide) hthrottled
  refine ⟨vault, later, hvault, hlater, hthrottled, hbound, ?_⟩
  have haccepted := hopens unlocking later hlater
  rw [hnext] at haccepted
  refine haccepted (by decide) (by simpa using hnone) ?_ 3 _ (by decide) List.length_replicate
  cases hsave : Persistent.save later.medium slotThree.record (later.slot slotThree).cleared with
  | ok after => exact ⟨after, rfl⟩
  | error error =>
    rw [hsave] at hsaved
    cases hsaved

end VaultSession

end SecureElement
