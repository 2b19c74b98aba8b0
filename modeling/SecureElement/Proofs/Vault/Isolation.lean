/-
  SecureElement.Proofs.Vault.Isolation

  Slots do not disturb each other.  As long as the medium takes every commit, what a session shows of
  a slot does not depend on the commands on other slots: it is the same as in the session without
  them.  The proof compares the two sessions step by step.  A command on another slot leaves what
  they show of the slot as it is, and every other step takes what is the same to what is the same.
-/
import SecureElement.Proofs.Vault.Deposit
import SecureElement.Proofs.Vault.Reach
import SecureElement.Proofs.Vault.Recovery

namespace SecureElement

variable {records capacity : Nat}

/-! ## Agreement on a slot -/

/-- Two media that take every commit and have the same image of a slot. -/
structure RamMedium.AgreeOn (index : SlotIndex) (one two : RamMedium records capacity) : Prop where
  -- neither medium will run out of commits
  budget_left : one.budget = none
  budget_right : two.budget = none
  load : Medium.load one index.record Persistent.maxImageSize =
    Medium.load two index.record Persistent.maxImageSize

/-- Two attempts on a slot that come to the same. -/
structure Slot.Attempt.AgreeOn (index : SlotIndex)
    (one two : Slot.Attempt (RamMedium records capacity)) : Prop where
  result : one.result = two.result
  slot : one.kept.slot = two.kept.slot
  medium : one.kept.medium.AgreeOn index two.kept.medium
  response : one.response = two.response

/-- Two vaults that serve a slot alike. -/
structure Vault.AgreeOn (index : SlotIndex) (one two : Vault (RamMedium records capacity)) :
    Prop where
  schedule : one.schedule = two.schedule
  slot : one.slot index = two.slot index
  medium : one.medium.AgreeOn index two.medium

/-! ## Commands on media that take every commit -/

section

variable (hrecords : slotCount ≤ records) (hcapacity : Persistent.imageSize Slot ≤ capacity)
variable {index : SlotIndex}

include hrecords hcapacity

namespace Slot

variable {first second : RamMedium records capacity}

/-- A medium that is large enough for the slots and takes every commit saves every slot. -/
theorem save_of_unlimited {medium : RamMedium records capacity} (hbudget : medium.budget = none)
    (index : SlotIndex) (next : Slot) :
    ∃ after, Persistent.save medium index.record next = .ok after ∧ after.budget = none := by
  have hknown : index.record.index < records := Nat.lt_of_lt_of_le index.isLt hrecords
  obtain ⟨after, hsave, hafter⟩ :=
    Persistent.save_isOk (by decide) hknown hcapacity (by rw [hbudget]; exact nofun) next
  exact ⟨after, hsave, by rw [hafter, hbudget]; rfl⟩

/-- Saving one slot on two media that agree on a slot leaves media that do. -/
theorem save_agreeOn (h : first.AgreeOn index second) (named : SlotIndex) (next : Slot) :
    ∃ one two, Persistent.save first named.record next = .ok one ∧
      Persistent.save second named.record next = .ok two ∧ one.AgreeOn index two := by
  obtain ⟨one, hone, hbudget⟩ := save_of_unlimited hrecords hcapacity h.budget_left named next
  obtain ⟨two, htwo, hbudget'⟩ := save_of_unlimited hrecords hcapacity h.budget_right named next
  have hcommit := (Persistent.commit_of_save hone).2
  have hcommit' := (Persistent.commit_of_save htwo).2
  refine ⟨one, two, hone, htwo, hbudget, hbudget', ?_⟩
  by_cases hnamed : index.record = named.record
  · -- both records have the image that was saved
    have hroom : (Persistent.image next).length ≤ Persistent.maxImageSize := by
      rw [Persistent.length_image]
      decide
    rw [hnamed, LawfulMedium.load_commit hcommit hroom, LawfulMedium.load_commit hcommit' hroom]
  · rw [LawfulMedium.load_commit_of_ne hcommit hnamed,
      LawfulMedium.load_commit_of_ne hcommit' hnamed, h.load]

theorem replace_agreeOn (h : first.AgreeOn index second) (named : SlotIndex)
    (slot other next : Slot) :
    ∃ one two, slot.replace first named next = (.ok (), ⟨next, one⟩) ∧
      other.replace second named next = (.ok (), ⟨next, two⟩) ∧ one.AgreeOn index two := by
  obtain ⟨one, two, hone, htwo, hagree⟩ := save_agreeOn hrecords hcapacity h named next
  refine ⟨one, two, ?_, ?_, hagree⟩
  · rw [replace, Draft.commit_revise, hone]
    rfl
  · rw [replace, Draft.commit_revise, htwo]
    rfl

/-- Presenting a key to a slot comes to the same on media that agree on it. -/
theorem present_agreeOn (h : first.AgreeOn index second) (slot : Slot) (candidate : SlotKey)
    (now : Instant) (schedule : BackoffSchedule) :
    (slot.present first index candidate now schedule).AgreeOn index
      (slot.present second index candidate now schedule) := by
  unfold present
  dsimp only
  by_cases hzero : (slot.remaining now).isZero = true
  · rw [if_pos hzero, if_pos hzero]
    by_cases hmatch : slot.key = candidate
    · rw [if_pos hmatch, if_pos hmatch, clearFailures, clearFailures]
      by_cases hclean : slot.failures = 0 ∧ slot.deadline = .zero
      · rw [if_pos hclean, if_pos hclean]
        exact ⟨rfl, rfl, h, rfl⟩
      · obtain ⟨one, two, hone, htwo, hagree⟩ :=
          replace_agreeOn hrecords hcapacity h index slot slot slot.cleared
        rw [if_neg hclean, if_neg hclean, hone, htwo]
        exact ⟨rfl, rfl, hagree, rfl⟩
    · obtain ⟨one, two, hone, htwo, hagree⟩ :=
        replace_agreeOn hrecords hcapacity h index slot slot (slot.penalised now schedule)
      rw [if_neg hmatch, if_neg hmatch]
      simp only [recordFailure, hone, htwo]
      exact ⟨rfl, rfl, hagree, rfl⟩
  · rw [if_neg hzero, if_neg hzero]
    exact ⟨rfl, rfl, h, rfl⟩

end Slot

namespace Vault

variable {first second : Vault (RamMedium records capacity)}

omit hrecords hcapacity in
/-- Vaults that agree on a slot do so after one slot was replaced in both. -/
theorem AgreeOn.keep (h : first.AgreeOn index second) (named : SlotIndex) (next : Slot)
    {one two : RamMedium records capacity} (hmedium : one.AgreeOn index two) :
    (first.keep named ⟨next, one⟩).AgreeOn index (second.keep named ⟨next, two⟩) := by
  refine ⟨h.schedule, ?_, hmedium⟩
  by_cases hnamed : index = named
  · subst hnamed
    rw [slot_keep_self, slot_keep_self]
  · rw [slot_keep_of_ne _ _ hnamed, slot_keep_of_ne _ _ hnamed, h.slot]

omit hrecords hcapacity in
theorem AgreeOn.record (h : first.AgreeOn index second) (now : Instant) (event : VaultEvent) :
    (first.record now event).AgreeOn index (second.record now event) :=
  ⟨h.schedule, h.slot, h.medium⟩

theorem writeSlot_agreeOn (h : first.AgreeOn index second) (now : Instant) (key : SlotKey)
    (value : SlotValue) :
    (first.writeSlot now index key value).1 = (second.writeSlot now index key value).1 ∧
      (first.writeSlot now index key value).2.AgreeOn index
        (second.writeSlot now index key value).2 := by
  obtain ⟨one, two, hone, htwo, hagree⟩ := Slot.replace_agreeOn hrecords hcapacity h.medium index
    (first.slot index) (second.slot index) (.holding key value)
  unfold writeSlot Slot.write
  rw [hone, htwo]
  exact ⟨rfl, (h.keep index _ hagree).record now _⟩

theorem eraseSlot_agreeOn (h : first.AgreeOn index second) (named : SlotIndex) :
    ∃ one two, first.eraseSlot named = (.ok (), one) ∧ second.eraseSlot named = (.ok (), two) ∧
      one.AgreeOn index two := by
  obtain ⟨one, two, hone, htwo, hagree⟩ := Slot.replace_agreeOn hrecords hcapacity h.medium named
    (first.slot named) (second.slot named) .erased
  unfold eraseSlot Slot.erase
  rw [hone, htwo]
  exact ⟨_, _, rfl, rfl, h.keep named _ hagree⟩

/-- The pass over slots comes to its end in both vaults. -/
theorem eraseEach_agreeOn (h : first.AgreeOn index second) (indices : List SlotIndex) :
    ∃ one two, eraseEach indices first = (.ok (), one) ∧
      eraseEach indices second = (.ok (), two) ∧ one.AgreeOn index two := by
  induction indices generalizing first second with
  | nil => exact ⟨first, second, rfl, rfl, h⟩
  | cons named rest ih =>
    obtain ⟨one, two, hone, htwo, hagree⟩ := eraseSlot_agreeOn hrecords hcapacity h named
    simp only [eraseEach, hone, htwo]
    exact ih hagree

theorem readSlot_agreeOn (h : first.AgreeOn index second) (now : Instant) (key : SlotKey) :
    (first.readSlot now index key).1 = (second.readSlot now index key).1 ∧
      (first.readSlot now index key).2.AgreeOn index (second.readSlot now index key).2 := by
  obtain ⟨hresult, hslot, hmedium, hresponse⟩ := Slot.present_agreeOn hrecords hcapacity h.medium
    (first.slot index) key now first.schedule
  unfold readSlot Slot.read
  rw [← h.slot, ← h.schedule]
  generalize (first.slot index).present first.medium index key now first.schedule = one
    at hresult hslot hmedium hresponse
  generalize (first.slot index).present second.medium index key now first.schedule = two
    at hresult hslot hmedium hresponse
  obtain ⟨result, ⟨slot, medium⟩, response⟩ := one
  obtain ⟨result', ⟨slot', medium'⟩, response'⟩ := two
  obtain rfl : result = result' := hresult
  obtain rfl : slot = slot' := hslot
  obtain rfl : response = response' := hresponse
  -- the response that the vault keeps plays no part in serving a slot
  have hkeep := h.keep index slot hmedium
  exact ⟨rfl, hkeep.schedule, hkeep.slot, hkeep.medium⟩

/-- A command on a slot is answered alike by vaults that agree on it, and they still agree on it
afterwards. -/
theorem execute_agreeOn (h : first.AgreeOn index second) {command : VaultCommand}
    (hconcerns : command.concerns index = true) (now : Instant) :
    (first.execute now command).1 = (second.execute now command).1 ∧
      (first.execute now command).2.AgreeOn index (second.execute now command).2 := by
  cases command with
  | write raw key value =>
    have hraw : raw.toNat = index.val := of_decide_eq_true hconcerns
    simp only [execute, write_eq]
    rcases checked_cases raw key value with
      ⟨named, slotKey, slotValue, hnamed, -, -, hchecked⟩ | ⟨refusal, -, hchecked⟩
    · have hindex : named = index := Fin.ext (hnamed.symm.trans hraw)
      subst hindex
      obtain ⟨hresult, hagree⟩ := writeSlot_agreeOn hrecords hcapacity h now slotKey slotValue
      simp only [hchecked]
      exact ⟨congrArg (fun result => ({ result } : VaultReply)) hresult, hagree⟩
    · simp only [hchecked]
      exact ⟨rfl, h⟩
  | read raw key out =>
    have hraw : raw.toNat = index.val := of_decide_eq_true hconcerns
    simp only [execute, read_eq]
    rcases checked_cases raw key out with
      ⟨named, slotKey, _, hnamed, -, -, hchecked⟩ | ⟨refusal, -, hchecked⟩
    · have hindex : named = index := Fin.ext (hnamed.symm.trans hraw)
      subst hindex
      simp only [hchecked]
      exact readSlot_agreeOn hrecords hcapacity h now slotKey
    · rw [hchecked]
      exact ⟨rfl, h⟩
  | erase raw =>
    simp only [execute, erase]
    cases SlotIndex.ofRaw raw with
    | error refusal => exact ⟨rfl, h⟩
    | ok named =>
      obtain ⟨one, two, hone, htwo, hagree⟩ := eraseSlot_agreeOn hrecords hcapacity h named
      simp only [hone, htwo]
      exact ⟨rfl, hagree.record now _⟩
  | eraseAll =>
    obtain ⟨one, two, hone, htwo, hagree⟩ :=
      eraseEach_agreeOn hrecords hcapacity h SlotIndex.all
    simp only [execute, eraseAll, hone, htwo]
    exact ⟨rfl, hagree.record now _⟩

end Vault

end

/-! ## Runs at given readings of the clock -/

/-- What a caller can do with a vault. -/
inductive VaultCall where
  /-- The vault is opened on its medium, after a restart or for the first time. -/
  | reopen (opening : VaultOpening)
  | command (command : VaultCommand)

/-- A call, and what the clock shows when it is made. -/
structure TimedCall where
  now : Instant
  call : VaultCall

namespace TimedCall

/-- Whether a call matters to a slot.  Only the commands on other slots do not. -/
def matters (index : SlotIndex) (timed : TimedCall) : Bool :=
  match timed.call with
  | .reopen _ => true
  | .command command => command.concerns index

/-- The call as a step of a session. -/
def step {μ : Type} [Medium μ] (timed : TimedCall) : VaultStep μ :=
  match timed.call with
  | .reopen opening => .reopen opening
  | .command command => .command command

end TimedCall

namespace VaultSession

section

variable {μ : Type} [Medium μ]

/-- The session after a call.  The clock shows what the call says, be it earlier or later than
before. -/
def serve (session : VaultSession μ) (timed : TimedCall) : VaultSession μ :=
  { session with clock := ⟨timed.now⟩ }.step timed.step

/-- The session that began on a medium, after these calls. -/
def serving (medium : μ) (calls : List TimedCall) : VaultSession μ :=
  calls.foldl serve (.start medium {})

/-- A call after which the vault is open, on the medium as it was. -/
theorem serve_reopen {session : VaultSession μ} {now : Instant} {opening : VaultOpening}
    {vault : Vault μ}
    (h : Vault.restore session.medium now opening.schedule opening.least = .ok vault) :
    session.serve ⟨now, .reopen opening⟩ = ⟨⟨now⟩, .opened vault, session.past⟩ := by
  let timed : VaultSession μ := { session with clock := ⟨now⟩ }
  have hopened : Component.restore timed.medium timed.clock.now opening = .ok vault := h
  exact Session.step_reopen timed hopened

theorem serve_reopen_refused {session : VaultSession μ} {now : Instant} {opening : VaultOpening}
    {refusal : Refusal}
    (h : Vault.restore session.medium now opening.schedule opening.least = .error refusal) :
    session.serve ⟨now, .reopen opening⟩ = ⟨⟨now⟩, .shut session.medium, session.past⟩ := by
  let timed : VaultSession μ := { session with clock := ⟨now⟩ }
  have hrefused : Component.restore timed.medium timed.clock.now opening =
    (.error refusal : Except Refusal (Vault μ)) := h
  exact Session.step_reopen_refused timed hrefused

end

/-! ### Sound sessions -/

/-- A session whose medium takes every commit and has every slot, and whose vault is in step with
it. -/
structure Sound (session : VaultSession (RamMedium records capacity)) : Prop where
  budget : session.medium.budget = none
  recovered : ∀ index, ∃ slot, Slot.recovered session.medium index = .ok slot
  synced : ∀ vault, session.bench = .opened vault → vault.Synced

variable {session : VaultSession (RamMedium records capacity)}

/-- An empty medium that is large enough has every slot, and every slot is erased. -/
theorem sound_start (hrecords : slotCount ≤ records) (clock : SteppedClock) :
    Sound (.start (.empty : RamMedium records capacity) clock) where
  budget := rfl
  recovered index := by
    have hknown : index.record.index < records := Nat.lt_of_lt_of_le index.isLt hrecords
    have hload : Medium.load (.empty : RamMedium records capacity) index.record
        Persistent.maxImageSize = .ok none := RamMedium.load_empty hknown _
    refine ⟨.erased, ?_⟩
    show Slot.recovered (.empty : RamMedium records capacity) index = .ok .erased
    rw [Slot.recovered, Persistent.recovered, Persistent.load, if_neg (by decide), hload]
    rfl
  synced vault h := nomatch h

/-- Under a valid schedule the vault of a sound session can be opened. -/
theorem Sound.restore_cases (h : Sound session) (now : Instant) (opening : VaultOpening) :
    (∃ vault, Vault.restore session.medium now opening.schedule opening.least = .ok vault ∧
      opening.schedule.Valid ∧ vault.medium = session.medium ∧
      vault.schedule = opening.schedule ∧ vault.Synced) ∨
    (¬ opening.schedule.Valid ∧
      Vault.restore session.medium now opening.schedule opening.least = .error .malformed) := by
  by_cases hvalid : opening.schedule.Valid
  · choose slots hslots using h.recovered
    have hfound (index : SlotIndex) :
        Slot.recovered session.medium index = .ok ((Vector.ofFn slots).get index) := by
      rw [hslots index]
      exact congrArg Except.ok (Vector.getElem_ofFn index.isLt).symm
    obtain ⟨vault, hrestore, -⟩ := Vault.restore_of_recovered hfound now hvalid opening.least
    obtain ⟨hmedium, hschedule, hsynced⟩ := Vault.of_restore hrestore
    exact Or.inl ⟨vault, hrestore, hvalid, hmedium, hschedule, hsynced⟩
  · have hvalidate : opening.schedule.validate = .error .malformed := if_neg hvalid
    refine Or.inr ⟨hvalid, ?_⟩
    rw [Vault.restore, hvalidate]
    rfl

/-- Every call leaves a sound session sound. -/
theorem Sound.serve (h : Sound session) (timed : TimedCall) : Sound (session.serve timed) := by
  obtain ⟨now, call⟩ := timed
  cases call with
  | reopen opening =>
    rcases h.restore_cases now opening with
      ⟨vault, hrestore, -, hmedium, -, hsynced⟩ | ⟨-, hrefused⟩
    · rw [serve_reopen hrestore]
      refine ⟨?_, fun index => ?_, fun opened hopened => ?_⟩
      · exact (congrArg RamMedium.budget hmedium).trans h.budget
      · exact ⟨vault.slot index, hsynced index⟩
      · cases hopened
        exact hsynced
    · rw [serve_reopen_refused hrefused]
      exact ⟨h.budget, h.recovered, fun opened hopened => nomatch hopened⟩
  | command command =>
    obtain ⟨clock, bench, past⟩ := session
    cases bench with
    | shut medium => exact ⟨h.budget, h.recovered, fun opened hopened => nomatch hopened⟩
    | opened vault =>
      have hsynced : (vault.execute now command).2.Synced :=
        Vault.synced_execute (h.synced vault rfl) now command
      refine ⟨?_, fun index => ⟨_, hsynced index⟩, fun opened hopened => ?_⟩
      · refine Vault.medium_execute (fun medium : RamMedium records capacity =>
          medium.budget = none) ?_ h.budget now
        intro index _ medium next after hbudget hsave
        rw [RamMedium.budget_commit (Persistent.commit_of_save hsave).2, hbudget]
        rfl
      · cases hopened
        exact hsynced

/-! ### What a session shows of a slot -/

end VaultSession

namespace VaultDeed

variable {μ : Type} [Medium μ] {index : SlotIndex} {deed : VaultDeed μ}

/-- The commands on a slot that were carried out, the latest first: when, and with what answer. -/
def answersOn (index : SlotIndex) (past : List (VaultDeed μ)) :
    List (Instant × VaultCommand × VaultReply) :=
  (past.filter fun deed => deed.command.concerns index).map fun deed =>
    (deed.instant, deed.command, deed.reply)

theorem answersOn_cons_of_concerns (h : deed.command.concerns index = true)
    (past : List (VaultDeed μ)) :
    answersOn index (deed :: past) =
      (deed.instant, deed.command, deed.reply) :: answersOn index past := by
  simp [answersOn, h]

theorem answersOn_cons_of_not_concerns (h : deed.command.concerns index = false)
    (past : List (VaultDeed μ)) : answersOn index (deed :: past) = answersOn index past := by
  simp [answersOn, h]

end VaultDeed

namespace VaultSession

open VaultDeed

/-- Two sessions that show the same of a slot: the answers to the commands on it, with what the
caller's buffers hold then, the slot in memory and the image of its record. -/
structure AgreeOn {μ : Type} [Medium μ] (index : SlotIndex) (one two : VaultSession μ) : Prop where
  answers : answersOn index one.past = answersOn index two.past
  opened : one.component?.map (fun vault => (vault.schedule, vault.slot index)) =
    two.component?.map fun vault => (vault.schedule, vault.slot index)
  stored : Medium.load one.medium index.record Persistent.maxImageSize =
    Medium.load two.medium index.record Persistent.maxImageSize

section

variable {μ : Type} [Medium μ] {index : SlotIndex} {one two three : VaultSession μ}

theorem AgreeOn.symm (h : AgreeOn index one two) : AgreeOn index two one :=
  ⟨h.answers.symm, h.opened.symm, h.stored.symm⟩

theorem AgreeOn.trans (h : AgreeOn index one two) (h' : AgreeOn index two three) :
    AgreeOn index one three :=
  ⟨h.answers.trans h'.answers, h.opened.trans h'.opened, h.stored.trans h'.stored⟩

/-- A command on another slot changes nothing that a session shows of a slot. -/
theorem serve_agreeOn_of_not_matters [LawfulMedium μ] [CountedMedium μ] {timed : TimedCall}
    (h : timed.matters index = false) (session : VaultSession μ) :
    AgreeOn index (session.serve timed) session := by
  obtain ⟨now, call⟩ := timed
  cases call with
  | reopen => cases h
  | command command =>
    obtain ⟨clock, bench, past⟩ := session
    cases bench with
    | shut medium => exact ⟨rfl, rfl, rfl⟩
    | opened vault =>
      have hconcerns : command.concerns index = false := h
      have hslot := Vault.slot_execute_of_not_concerns hconcerns vault now
      have hschedule := schedule_after (⟨now, command, vault⟩ : VaultDeed μ)
      have hother (named : SlotIndex) (hnamed : command.concerns named = true) :
          index.record ≠ named.record := by
        intro heq
        rw [SlotIndex.record_inj.mp heq, hnamed] at hconcerns
        cases hconcerns
      exact ⟨answersOn_cons_of_not_concerns hconcerns past,
        congrArg some (Prod.ext hschedule hslot),
        Vault.load_execute_of_ne hother vault now _⟩

end

/-! ## Isolation -/

section

variable (hrecords : slotCount ≤ records) (hcapacity : Persistent.imageSize Slot ≤ capacity)
variable {index : SlotIndex} {one two : VaultSession (RamMedium records capacity)}

include hrecords hcapacity

/-- A call that matters to a slot takes sound sessions that show the same of it to sessions that
do. -/
theorem AgreeOn.serve (h : AgreeOn index one two) (hone : Sound one) (htwo : Sound two)
    {timed : TimedCall} (hmatters : timed.matters index = true) :
    AgreeOn index (one.serve timed) (two.serve timed) := by
  obtain ⟨now, call⟩ := timed
  cases call with
  | reopen opening =>
    rcases hone.restore_cases now opening with
      ⟨vault, hrestore, hvalid, hmedium, hschedule, hsynced⟩ | ⟨hinvalid, hrefused⟩
    · rcases htwo.restore_cases now opening with
        ⟨vault', hrestore', -, hmedium', hschedule', hsynced'⟩ | ⟨hinvalid', -⟩
      · rw [serve_reopen hrestore, serve_reopen hrestore']
        have hload : Medium.load vault.medium index.record Persistent.maxImageSize =
            Medium.load vault'.medium index.record Persistent.maxImageSize := by
          rw [hmedium, hmedium', h.stored]
        -- the slots are the ones that the media have, and the media have the same
        have hslot : vault.slot index = vault'.slot index := by
          have hsame := Persistent.recovered_congr Slot.erased hload
          exact Except.ok.inj ((hsynced index).symm.trans (hsame.trans (hsynced' index)))
        exact ⟨h.answers, congrArg some (Prod.ext (hschedule.trans hschedule'.symm) hslot),
          hload⟩
      · exact absurd hvalid hinvalid'
    · rcases htwo.restore_cases now opening with ⟨_, _, hvalid', _⟩ | ⟨-, hrefused'⟩
      · exact absurd hvalid' hinvalid
      · rw [serve_reopen_refused hrefused, serve_reopen_refused hrefused']
        exact ⟨h.answers, rfl, h.stored⟩
  | command command =>
    have hconcerns : command.concerns index = true := hmatters
    obtain ⟨clock, bench, past⟩ := one
    obtain ⟨clock', bench', past'⟩ := two
    obtain ⟨hanswers, hopened, hstored⟩ := h
    cases bench with
    | shut medium =>
      cases bench' with
      | shut medium' => exact ⟨hanswers, rfl, hstored⟩
      | opened vault' => cases hopened
    | opened vault =>
      cases bench' with
      | shut medium' => cases hopened
      | opened vault' =>
        obtain ⟨hschedule, hslot⟩ := Prod.mk.inj (Option.some.inj hopened)
        have hvaults : vault.AgreeOn index vault' :=
          ⟨hschedule, hslot, hone.budget, htwo.budget, hstored⟩
        obtain ⟨hreply, hagree⟩ :=
          Vault.execute_agreeOn hrecords hcapacity hvaults hconcerns now
        refine ⟨?_, congrArg some (Prod.ext hagree.schedule hagree.slot), hagree.medium.load⟩
        show answersOn index (⟨now, command, vault⟩ :: past) =
          answersOn index (⟨now, command, vault'⟩ :: past')
        rw [answersOn_cons_of_concerns hconcerns, answersOn_cons_of_concerns hconcerns]
        exact congrArg₂ List.cons (congrArg (fun reply => (now, command, reply)) hreply) hanswers

/-- What calls leave to be seen of a slot, the calls that matter to it leave to be seen. -/
theorem agreeOn_filter (h : AgreeOn index one two) (hone : Sound one) (htwo : Sound two)
    (calls : List TimedCall) :
    AgreeOn index (calls.foldl serve one)
      ((calls.filter fun timed => timed.matters index).foldl serve two) := by
  -- by induction on the calls: one that is left out changes what is seen in neither session
  induction calls generalizing one two with
  | nil => exact h
  | cons timed rest ih =>
    by_cases hmatters : timed.matters index = true
    · rw [List.filter_cons_of_pos hmatters]
      exact ih (h.serve hrecords hcapacity hone htwo hmatters) (hone.serve timed) (htwo.serve timed)
    · have hskipped : timed.matters index = false := Bool.eq_false_iff.mpr hmatters
      rw [List.filter_cons_of_neg hmatters]
      exact ih ((serve_agreeOn_of_not_matters hskipped one).trans h) (hone.serve timed) htwo

end

/-- Slots do not disturb each other.  Take any calls at any readings of the clock, served on an
empty medium that is large enough for the slots and loses no commit.  What they leave to be seen of a
slot (the answers to all commands on it with the caller's buffers, the slot in memory, the image of
its record) is what is left without the commands on other slots.  So no two numbers stand for one
slot, and commands that name different numbers can be exchanged; this changes nothing for any slot.
A number that no slot has is refused before the lengths of the arguments are checked, and an argument
of the wrong length after that; either way the vault, its medium and the caller's buffer stay as they
are, whatever the vault and the medium were before. -/
theorem slots_isolated (hrecords : slotCount ≤ records)
    (hcapacity : Persistent.imageSize Slot ≤ capacity) :
    (∀ (calls : List TimedCall) (index : SlotIndex),
      AgreeOn index (serving (.empty : RamMedium records capacity) calls)
        (serving .empty (calls.filter fun timed => timed.matters index))) ∧
    (∀ raw raw' (index other : SlotIndex), SlotIndex.ofRaw raw = .ok index →
      SlotIndex.ofRaw raw' = .ok other → raw ≠ raw' →
        index ≠ other ∧ index.record ≠ other.record) ∧
    (∀ (earlier later : List TimedCall) now now' (command command' : VaultCommand) raw raw',
      command.named? = some raw → command'.named? = some raw' → raw ≠ raw' → ∀ index,
        AgreeOn index
          (serving (.empty : RamMedium records capacity)
            (earlier ++ [⟨now, .command command⟩, ⟨now', .command command'⟩] ++ later))
          (serving .empty
            (earlier ++ [⟨now', .command command'⟩, ⟨now, .command command⟩] ++ later))) ∧
    ∀ (vault : Vault (RamMedium records capacity)) now (command : VaultCommand) raw,
      command.named? = some raw →
      (slotCount ≤ raw.toNat →
        vault.execute now command =
          ({ result := .error .unknownSlot, out := command.buffer }, vault) ∧
        vault.failures raw = .error .unknownSlot) ∧
      (raw.toNat < slotCount → ¬ command.WellSized →
        vault.execute now command =
          ({ result := .error .wrongLength, out := command.buffer }, vault)) := by
  have hfilter (calls : List TimedCall) (index : SlotIndex) :
      AgreeOn index (serving (.empty : RamMedium records capacity) calls)
        (serving .empty (calls.filter fun timed => timed.matters index)) :=
    agreeOn_filter hrecords hcapacity ⟨rfl, rfl, rfl⟩ (sound_start hrecords {})
      (sound_start hrecords {}) calls
  refine ⟨hfilter, ?_, ?_, ?_⟩
  · intro raw raw' index other hindex hother hne
    have hdistinct : index ≠ other := by
      rintro rfl
      have hindex := SlotIndex.ofRaw_eq_ok_iff.mp hindex
      have hother := SlotIndex.ofRaw_eq_ok_iff.mp hother
      exact hne (UInt32.toNat_inj.mp (hindex.trans hother.symm))
    exact ⟨hdistinct, fun heq => hdistinct (SlotIndex.record_inj.mp heq)⟩
  · intro earlier later now now' command command' raw raw' hraw hraw' hne index
    -- at most one of the two matters to the slot, so what matters to it comes in one order
    have hone : ¬ (command.concerns index = true ∧ command'.concerns index = true) := by
      rw [VaultCommand.concerns_of_named hraw, VaultCommand.concerns_of_named hraw']
      rintro ⟨hindex, hindex'⟩
      exact hne (UInt32.toNat_inj.mp (hindex.trans hindex'.symm))
    have hsame : [(⟨now, .command command⟩ : TimedCall), ⟨now', .command command'⟩].filter
          (fun timed => timed.matters index) =
        [(⟨now', .command command'⟩ : TimedCall), ⟨now, .command command⟩].filter
          (fun timed => timed.matters index) := by
      cases hfirst : command.concerns index <;> cases hsecond : command'.concerns index
      · simp [TimedCall.matters, hfirst, hsecond]
      · simp [TimedCall.matters, hfirst, hsecond]
      · simp [TimedCall.matters, hfirst, hsecond]
      · exact absurd ⟨hfirst, hsecond⟩ hone
    have hexchanged := (hfilter (earlier ++ [⟨now', .command command'⟩, ⟨now, .command command⟩] ++
      later) index).symm
    rw [List.filter_append, List.filter_append, ← hsame, ← List.filter_append,
      ← List.filter_append] at hexchanged
    exact (hfilter _ index).trans hexchanged
  · intro vault now command raw hraw
    refine ⟨fun hmisnamed => ⟨?_, vault.failures_of_misnamed hmisnamed⟩, fun hnamed hsizes => ?_⟩
    · exact vault.execute_of_misnamed now hraw hmisnamed
    · exact vault.execute_of_missized now hraw hnamed hsizes

/-- Slots 3 and 5 are written, wrong keys are presented to both, everything is erased and the vault
is opened again; a number whose low bits are those of slot 3 is tried, and the clock goes back once. -/
def mingled : List TimedCall :=
  [⟨⟨1⟩, .reopen ⟨{}, .standard⟩⟩,
    ⟨⟨2⟩, .command (.write 3 (List.replicate 16 7) (List.replicate 16 9))⟩,
    ⟨⟨3⟩, .command (.write 5 (List.replicate 16 1) (List.replicate 16 2))⟩,
    ⟨⟨4⟩, .command (.read 0x10003 (List.replicate 16 7) (List.replicate 16 0))⟩,
    ⟨⟨5⟩, .command (.read 5 (List.replicate 16 8) (List.replicate 16 0))⟩,
    ⟨⟨6⟩, .command (.read 3 (List.replicate 16 8) (List.replicate 16 0))⟩,
    ⟨⟨5⟩, .command (.erase 5)⟩,
    ⟨⟨7⟩, .reopen ⟨{}, .standard⟩⟩,
    ⟨⟨8⟩, .command .eraseAll⟩,
    ⟨⟨9⟩, .command (.write 3 (List.replicate 16 4) (List.replicate 16 6))⟩]

/-- Of these calls six matter to slot 3, and they leave the same to be seen of it. -/
theorem slots_isolated_mingled :
    slotCount ≤ 64 ∧ Persistent.imageSize Slot ≤ 46 ∧
    (mingled.filter fun timed => timed.matters slotThree).length = 6 ∧
    AgreeOn slotThree (serving (.empty : RamMedium 64 46) mingled)
      (serving .empty (mingled.filter fun timed => timed.matters slotThree)) :=
  have hslots : slotCount ≤ 64 := by decide
  have hsize : Persistent.imageSize Slot ≤ 46 := by decide
  ⟨hslots, hsize, by decide, (slots_isolated hslots hsize).1 mingled slotThree⟩

end VaultSession

end SecureElement
