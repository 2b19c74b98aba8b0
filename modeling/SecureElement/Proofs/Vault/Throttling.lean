/-
  SecureElement.Proofs.Vault.Throttling

  How fast wrong keys can be tried.  The wrong keys that a slot has answered since its throttling
  was last cleared form a streak.  Along it the failure count goes up one by one, and the next
  attempt lies at least the backoff of that count later; until then every read is refused without a
  look at its key.  So a streak takes at least the sum of its backoffs, through restarts, failed
  commits and whatever happens to other slots.
-/
import Mathlib.Data.List.Chain
import SecureElement.Proofs.Vault.Deposit

namespace SecureElement

variable {μ : Type} [Medium μ]

namespace VaultDeed

/-! ## Streaks of wrong keys -/

/-- The failure count of a slot after a command. -/
def failuresAfter (index : SlotIndex) (deed : VaultDeed μ) : Nat :=
  (deed.after.slot index).failures.toNat

/-- The end of the backoff that a slot's failure count costs after a command, in milliseconds on the
clock. -/
def refusedUntil (schedule : BackoffSchedule) (index : SlotIndex) (deed : VaultDeed μ) : Nat :=
  min Instant.maxMs
    (deed.instant.ms.toNat + (schedule.backoff (deed.after.slot index).failures).ms.toNat)

/-- A wrong key was presented to a slot that was open, and it was answered with the backoff. -/
structure IsWrongKey (schedule : BackoffSchedule) (index : SlotIndex) (deed : VaultDeed μ) :
    Prop where
  opened : (deed.before.slot index).deadline ≤ deed.instant
  penalised : deed.after.slot index = (deed.before.slot index).penalised deed.instant schedule
  answered : deed.reply.result =
    .error (.wrongKey (schedule.backoff (deed.after.slot index).failures))

/-- A command found a slot as another left it. -/
def Resumes (index : SlotIndex) (later earlier : VaultDeed μ) : Prop :=
  later.before.slot index = earlier.after.slot index

/-- Between two wrong keys in a row the count goes up by one, and the backoff has passed. -/
theorem spaced_of_resumes {schedule : BackoffSchedule} {index : SlotIndex}
    {later earlier : VaultDeed μ} (hlater : IsWrongKey schedule index later)
    (hearlier : IsWrongKey schedule index earlier) (h : Resumes index later earlier) :
    failuresAfter index later = min (failuresAfter index earlier + 1) 0x7FFF ∧
      refusedUntil schedule index earlier ≤ later.instant.ms.toNat := by
  have hmax : maxFailures.toNat = 0x7FFF := rfl
  constructor
  · have hcount := Slot.toNat_failures_penalised (later.before.slot index) later.instant schedule
    rw [← hlater.penalised, h, hmax] at hcount
    exact hcount
  · -- the later attempt found the deadline that the earlier one had set
    have hopen := Instant.le_iff.mp hlater.opened
    have hdeadline : (earlier.after.slot index).deadline =
        earlier.instant.after (schedule.backoff (earlier.after.slot index).failures) := by
      rw [hearlier.penalised]
      rfl
    rw [h, hdeadline, Instant.toNat_after] at hopen
    exact hopen

variable [CountedMedium μ]

/-- The reads of a slot that were answered with a wrong key since its throttling was last cleared,
the latest first. -/
def wrongKeys (index : SlotIndex) : List (VaultDeed μ) → List (VaultDeed μ)
  | [] => []
  | deed :: earlier =>
    match deed.outcome index with
    | .penalised _ => deed :: wrongKeys index earlier
    | .nothing => wrongKeys index earlier
    | .deposited _ _ | .erased | .granted => []

/-- A command with the outcome of a wrong key was answered with one. -/
theorem answered_of_penalised {deed : VaultDeed μ} {index : SlotIndex} {backoff : Duration}
    (h : deed.outcome index = .penalised backoff) :
    deed.reply.result = .error (.wrongKey backoff) := by
  unfold outcome at h
  split at h
  · split at h <;> cases h
  · split at h
    · unfold SlotOutcome.ofRead at h
      split at h
      · cases h
      · rename_i hresult
        cases h
        exact hresult
      · cases h
    · cases h
  · split at h <;> cases h
  · split at h <;> cases h

theorem mem_past_of_wrongKeys {index : SlotIndex} {deed : VaultDeed μ}
    {past : List (VaultDeed μ)} (h : deed ∈ wrongKeys index past) : deed ∈ past := by
  induction past with
  | nil => cases h
  | cons latest earlier ih =>
    unfold wrongKeys at h
    split at h
    · rcases List.mem_cons.mp h with rfl | hearlier
      · exact List.mem_cons_self
      · exact List.mem_cons_of_mem _ (ih hearlier)
    · exact List.mem_cons_of_mem _ (ih h)
    · cases h
    · cases h
    · cases h

/-- A streak of wrong keys: each command found the slot as the one before it left it, and the slot
that is found now is as the latest left it. -/
structure Streak (schedule : BackoffSchedule) (index : SlotIndex) (streak : List (VaultDeed μ))
    (found : Except MediumError Slot) : Prop where
  each : ∀ deed ∈ streak, IsWrongKey schedule index deed
  resumed : streak.IsChain (Resumes index)
  left : ∀ slot, found = .ok slot → ∀ latest ∈ streak.head?, slot = latest.after.slot index

omit [CountedMedium μ] in
theorem streak_nil (schedule : BackoffSchedule) (index : SlotIndex)
    (found : Except MediumError Slot) :
    Streak schedule index ([] : List (VaultDeed μ)) found :=
  ⟨nofun, .nil, fun _ _ => nofun⟩

/-- Every command carries the streak from the slot before to the slot after. -/
theorem streak_cons {schedule : BackoffSchedule} {index : SlotIndex} {past : List (VaultDeed μ)}
    {deed : VaultDeed μ} (hschedule : deed.before.schedule = schedule)
    (h : Streak schedule index (wrongKeys index past) (.ok (deed.before.slot index))) :
    Streak schedule index (wrongKeys index (deed :: past)) (.ok (deed.after.slot index)) := by
  have heffect := deed.effect index
  -- a command on another slot leaves this one as the streak left it, and a success ends the streak
  unfold wrongKeys
  cases houtcome : deed.outcome index with
  | nothing =>
    rw [houtcome] at heffect
    rw [heffect.eq_of_nothing]
    exact h
  | penalised backoff =>
    rw [houtcome, hschedule] at heffect
    obtain ⟨hopen, hafter, hbackoff⟩ := heffect.of_penalised
    have hanswered := answered_of_penalised houtcome
    rw [hbackoff] at hanswered
    refine ⟨?_, List.isChain_cons.mpr ⟨h.left (deed.before.slot index) rfl, h.resumed⟩, ?_⟩
    · intro other hother
      rcases List.mem_cons.mp hother with rfl | hearlier
      · exact ⟨hopen, hafter, hanswered⟩
      · exact h.each other hearlier
    · intro slot hslot latest hlatest
      cases hlatest
      exact (Except.ok.inj hslot).symm
  | deposited key value => exact streak_nil schedule index _
  | erased => exact streak_nil schedule index _
  | granted => exact streak_nil schedule index _

/-! ## What a streak costs -/

omit [CountedMedium μ] in
/-- Along a streak the counts go up one by one, and each backoff passes before the next attempt. -/
theorem spaced_of_streak {schedule : BackoffSchedule} {index : SlotIndex}
    {streak : List (VaultDeed μ)} {found : Except MediumError Slot}
    (h : Streak schedule index streak found) :
    streak.IsChain fun later earlier =>
      failuresAfter index later = min (failuresAfter index earlier + 1) 0x7FFF ∧
        refusedUntil schedule index earlier ≤ later.instant.ms.toNat := by
  obtain ⟨heach, hresumed, -⟩ := h
  induction streak with
  | nil => exact .nil
  | cons later rest ih =>
    obtain ⟨hhead, hrest⟩ := List.isChain_cons.mp hresumed
    have hlater := heach later List.mem_cons_self
    have htail := fun deed hdeed => heach deed (List.mem_cons_of_mem later hdeed)
    refine List.isChain_cons.mpr ⟨fun earlier hearlier => ?_, ih htail hrest⟩
    have hmem := List.mem_of_mem_head? hearlier
    exact spaced_of_resumes hlater (htail earlier hmem) (hhead earlier hearlier)

/-- The backoffs that the first wrong keys from a clean slot cost together, in milliseconds. -/
def totalBackoff (schedule : BackoffSchedule) : Nat → Nat
  | 0 => 0
  | attempts + 1 =>
    totalBackoff schedule attempts +
      (schedule.backoff (UInt16.ofNat (min (attempts + 1) 0x7FFF))).ms.toNat

/-- A capped count that goes up by one is the next count, capped. -/
theorem min_succ_min (count cap : Nat) : min (min count cap + 1) cap = min (count + 1) cap := by
  omega

omit [CountedMedium μ] in
/-- A streak from a clean slot counts its wrong keys, and it takes at least the backoffs of all but
the last. -/
theorem total_of_streak {schedule : BackoffSchedule} {index : SlotIndex}
    {streak : List (VaultDeed μ)} {found : Except MediumError Slot}
    (h : Streak schedule index streak found) {first latest : VaultDeed μ}
    (hfirst : first ∈ streak.getLast?) (hlatest : latest ∈ streak.head?)
    (hclean : (first.before.slot index).failures = 0) :
    failuresAfter index latest = min streak.length 0x7FFF ∧
    min Instant.maxMs
        (first.instant.ms.toNat + totalBackoff schedule (streak.length - 1)) ≤
      latest.instant.ms.toNat := by
  have hspaced := spaced_of_streak h
  obtain ⟨heach, -, -⟩ := h
  -- by induction on the streak, from its first wrong key at the end of the list
  induction streak generalizing latest with
  | nil => cases hlatest
  | cons later rest ih =>
    obtain rfl : later = latest := Option.some.inj hlatest
    obtain ⟨hhead, hrest⟩ := List.isChain_cons.mp hspaced
    cases rest with
    | nil =>
      obtain rfl : later = first := Option.some.inj hfirst
      have hcount := Slot.toNat_failures_penalised (later.before.slot index) later.instant schedule
      rw [← (heach later List.mem_cons_self).penalised, hclean] at hcount
      exact ⟨hcount, Nat.min_le_right _ _⟩
    | cons earlier more =>
      have htail := fun deed hdeed => heach deed (List.mem_cons_of_mem later hdeed)
      obtain ⟨hcount, htotal⟩ := ih hfirst rfl hrest htail
      obtain ⟨hnext, hwait⟩ := hhead earlier rfl
      -- the earlier count says which backoff had to pass before the later attempt
      have hfailures : (earlier.after.slot index).failures =
          UInt16.ofNat (min (more.length + 1) 0x7FFF) := by
        rw [← UInt16.toNat_inj, UInt16.toNat_ofNat', Nat.mod_eq_of_lt (by omega)]
        exact hcount
      rw [refusedUntil, hfailures] at hwait
      simp only [List.length_cons, Nat.add_sub_cancel] at hcount htotal ⊢
      constructor
      · rw [hnext, hcount]
        exact min_succ_min _ _
      · rw [totalBackoff]
        omega

omit [CountedMedium μ] in
/-- The deadline of a slot is the end of the backoff that it answered last. -/
theorem deadline_of_streak {schedule : BackoffSchedule} {index : SlotIndex}
    {streak : List (VaultDeed μ)} {slot : Slot} (h : Streak schedule index streak (.ok slot))
    {latest : VaultDeed μ} (hlatest : latest ∈ streak.head?) :
    slot.deadline.ms.toNat = refusedUntil schedule index latest := by
  have hafter := (h.each latest (List.mem_of_mem_head? hlatest)).penalised
  have hdeadline : slot.deadline =
      latest.instant.after (schedule.backoff (latest.after.slot index).failures) := by
    rw [h.left slot rfl latest hlatest, hafter]
    rfl
  rw [hdeadline, Instant.toNat_after]
  rfl

end VaultDeed

namespace Vault

/-- A read before the slot's deadline is refused, whatever its key, and changes no slot and not the
medium. -/
theorem read_throttled {vault : Vault μ} {now : Instant} {raw : UInt32} {index : SlotIndex}
    (hraw : raw.toNat = index.val) (key : SlotKey) (out : SlotValue)
    (hwait : now < (vault.slot index).deadline) :
    (vault.read now raw key.bytes out.bytes).1.result =
      .error (.throttled ((vault.slot index).remaining now)) ∧
    (vault.read now raw key.bytes out.bytes).2.slots = vault.slots ∧
    (vault.read now raw key.bytes out.bytes).2.medium = vault.medium := by
  obtain ⟨reading, hcase, hread⟩ := readSlot_cases vault now index key
  rw [read_eq_readSlot vault now hraw, hread]
  have hclosed : ¬ (vault.slot index).deadline ≤ now := UInt64.not_le.mpr hwait
  cases hcase with
  | throttled =>
    refine ⟨rfl, ?_, rfl⟩
    show (vault.keep index ⟨vault.slot index, vault.medium⟩).slots = vault.slots
    rw [keep_slot]
  | clean hopen | cleared _ _ hopen | notCleared _ hopen | recorded _ hopen
  | notRecorded _ hopen => exact absurd hopen hclosed

end Vault

namespace VaultSession

open VaultDeed

variable [CountedMedium μ] [LawfulMedium μ]

/-- In a session with one schedule, the wrong keys of each slot form a streak, and the slot of the
open vault is as the streak left it. -/
theorem streak_wrongKeys (medium : μ) (clock : SteppedClock) {schedule : BackoffSchedule}
    {steps : List (VaultStep μ)} (hsteps : ∀ step ∈ steps, Uses (· = schedule) step)
    (index : SlotIndex) :
    let session : VaultSession μ := .after medium clock steps
    Streak schedule index (wrongKeys index session.past) (Slot.recovered session.medium index) ∧
      ∀ vault, session.component? = some vault →
        Streak schedule index (wrongKeys index session.past) (.ok (vault.slot index)) := by
  intro session
  obtain ⟨hstreak, hopened⟩ := tells_slot index
    (fun past found => Streak schedule index (wrongKeys index past) found)
    (fun past deed hschedule h => streak_cons hschedule h) (streak_nil schedule index _) clock
    hsteps
  exact ⟨hstreak, fun vault hvault => (hopened vault hvault).2⟩

/-- Wrong keys cannot be tried faster than the schedule allows.  In every session that opens its
vault with one schedule, on whatever medium it began: each wrong key since the slot's throttling
was last cleared is answered with the backoff of the failure count that it leaves; the counts go
up one by one, and each attempt waits for the backoff before it; until the latest backoff has
passed every key is refused with the exact time left, and nothing changes; and from a clean slot
the wrong keys together take the sum of the backoffs. -/
theorem wrongKeys_spaced (medium : μ) (clock : SteppedClock) (schedule : BackoffSchedule)
    {steps : List (VaultStep μ)} (hsteps : ∀ step ∈ steps, Uses (· = schedule) step)
    (index : SlotIndex) :
    let session : VaultSession μ := .after medium clock steps
    let streak := wrongKeys index session.past
    (∀ deed ∈ streak, deed.reply.result =
      .error (.wrongKey (schedule.backoff (deed.after.slot index).failures))) ∧
    (streak.IsChain fun later earlier =>
      failuresAfter index later = min (failuresAfter index earlier + 1) 0x7FFF ∧
        refusedUntil schedule index earlier ≤ later.instant.ms.toNat) ∧
    (∀ latest ∈ streak.head?, ∀ vault, session.component? = some vault →
      session.clock.now.ms.toNat < refusedUntil schedule index latest →
      ∀ (raw : UInt32) (key : SlotKey) (out : SlotValue), raw.toNat = index.val →
        let deed : VaultDeed μ := ⟨session.clock.now, .read raw key.bytes out.bytes, vault⟩
        ∃ left : Duration, deed.reply.result = .error (.throttled left) ∧
          left.ms.toNat = refusedUntil schedule index latest - session.clock.now.ms.toNat ∧
          deed.after.slots = vault.slots ∧ deed.after.medium = vault.medium) ∧
    (∀ first ∈ streak.getLast?, (first.before.slot index).failures = 0 →
      ∀ latest ∈ streak.head?,
        failuresAfter index latest = min streak.length 0x7FFF ∧
        min Instant.maxMs (first.instant.ms.toNat + totalBackoff schedule (streak.length - 1)) ≤
          latest.instant.ms.toNat) := by
  intro session streak
  obtain ⟨hstreak, hopened⟩ := streak_wrongKeys medium clock hsteps index
  refine ⟨fun deed hdeed => (hstreak.each deed hdeed).answered, spaced_of_streak hstreak, ?_,
    fun first hfirst hclean latest hlatest => total_of_streak hstreak hfirst hlatest hclean⟩
  intro latest hlatest vault hvault hwait raw key out hraw deed
  have hdeadline := deadline_of_streak (hopened vault hvault) hlatest
  have hnow : session.clock.now < (vault.slot index).deadline := by
    show session.clock.now.ms.toNat < (vault.slot index).deadline.ms.toNat
    rw [hdeadline]
    exact hwait
  obtain ⟨hresult, hslots, hmedium⟩ := Vault.read_throttled hraw key out hnow
  refine ⟨_, hresult, ?_, hslots, hmedium⟩
  have hpast := mem_past_of_wrongKeys (List.mem_of_mem_head? hlatest)
  have hafter : latest.instant.ms.toNat ≤ session.clock.now.ms.toNat :=
    Session.instant_le_now medium clock steps latest hpast
  have hbackoff := (schedule.backoff (latest.after.slot index).failures).toNat_ms_le
  show (Instant.remaining _ _).ms.toNat = _
  rw [Instant.toNat_remaining, hdeadline]
  -- the clock has not gone back since the latest attempt, so the time left fits a duration
  unfold refusedUntil
  omega

/-- A schedule whose first backoff is one second. -/
def impatient : BackoffSchedule :=
  { flatFrom := 1, flat := ⟨1000⟩, doublingFrom := 2, doublingEvery := 1, ceilingFrom := 5,
    ceiling := ⟨4000⟩ }

/-- Three wrong keys for slot 3; the second comes a millisecond too early. -/
def guesses : List (VaultStep (RamMedium 64 46)) :=
  [.reopen ⟨impatient, .standard⟩,
    .command (.read 3 (List.replicate 16 1) (List.replicate 16 0)),
    .wait ⟨999⟩, .command (.read 3 (List.replicate 16 2) (List.replicate 16 0)),
    .wait ⟨1000⟩, .command (.read 3 (List.replicate 16 3) (List.replicate 16 0))]

def guessed : List (VaultDeed (RamMedium 64 46)) :=
  wrongKeys slotThree (Session.after .empty {} guesses : VaultSession (RamMedium 64 46)).past

/-- Two of the guesses count, and they lie a second apart. -/
theorem wrongKeys_spaced_guesses :
    (∀ step ∈ guesses, Uses (· = impatient) step) ∧ guessed.length = 2 ∧
    ∀ first ∈ guessed.getLast?, ∀ latest ∈ guessed.head?,
      failuresAfter slotThree latest = 2 ∧
        first.instant.ms.toNat = 0 ∧ 1000 ≤ latest.instant.ms.toNat := by
  have huses : ∀ step ∈ guesses, Uses (· = impatient) step := by
    simp [guesses, Uses]
  have hlength : guessed.length = 2 := by
    decide +kernel
  have hclean : (guessed.getLast?.map fun first =>
      ((first.before.slot slotThree).failures, first.instant)) = some (0, .zero) := by
    decide +kernel
  have hsum : min Instant.maxMs
      (Instant.zero.ms.toNat + totalBackoff impatient (2 - 1)) = 1000 := by
    decide
  obtain ⟨-, -, -, htotal⟩ :=
    wrongKeys_spaced (.empty : RamMedium 64 46) {} impatient huses slotThree
  refine ⟨huses, hlength, fun first hfirst latest hlatest => ?_⟩
  rw [Option.mem_def.mp hfirst] at hclean
  obtain ⟨hfailures, hinstant⟩ := Prod.mk.inj (Option.some.inj hclean)
  obtain ⟨hcount, hwait⟩ := htotal first hfirst hfailures latest hlatest
  change failuresAfter _ latest = min guessed.length 0x7FFF at hcount
  change min Instant.maxMs (_ + totalBackoff _ (guessed.length - 1)) ≤ _ at hwait
  rw [hlength, hinstant, hsum] at hwait
  rw [hlength] at hcount
  exact ⟨hcount, by rw [hinstant]; rfl, hwait⟩

end VaultSession

end SecureElement
