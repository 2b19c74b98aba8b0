/-
  SecureElement.Proofs.Slot.Secrecy

  Two slots that differ in their keys and values only.  `Slot.wipe` is what may be seen of a slot,
  and two slots are alike if it is the same of both; two media are alike if they have alike slots
  and have spent their commits alike.  A change to alike slots takes effect on both media or is
  refused by both, and leaves alike slots on alike media.  A read comes to the same if its key is
  right for both slots or wrong for both; on throttled slots it does so for any two keys.
-/
import SecureElement.Proofs.Slot.Access

namespace SecureElement

variable {records capacity : Nat}

namespace Slot

/-! ## What may be seen of a slot -/

/-- Slots are alike if they are throttled alike. -/
theorem wipe_eq_wipe_iff {slot other : Slot} :
    slot.wipe = other.wipe ↔ slot.failures = other.failures ∧ slot.deadline = other.deadline := by
  constructor
  · intro h
    exact ⟨(Slot.mk.inj h).2.2.1, (Slot.mk.inj h).2.2.2⟩
  · rintro ⟨hfailures, hdeadline⟩
    rw [wipe, wipe, hfailures, hdeadline]

/-- A penalty depends on the throttling and on nothing else. -/
theorem wipe_penalised {slot other : Slot} (h : slot.wipe = other.wipe) (now : Instant)
    (schedule : BackoffSchedule) :
    (slot.penalised now schedule).wipe = (other.penalised now schedule).wipe := by
  obtain ⟨hfailures, -⟩ := wipe_eq_wipe_iff.mp h
  simp only [penalised, wipe, hfailures]

/-- What may be seen of the slot that a medium has. -/
def shown {μ : Type} [Medium μ] (medium : μ) (index : SlotIndex) : Except Refusal (Option Slot) :=
  (load medium index).map fun found => found.map wipe

end Slot

/-! ## Media -/

/-- Two media that differ in the keys and the values of their slots only. -/
structure RamMedium.Alike (first second : RamMedium records capacity) : Prop where
  commits : first.commits = second.commits
  budget : first.budget = second.budget
  shown : ∀ index, Slot.shown first index = Slot.shown second index

namespace Slot

/-- A slot that was saved can be seen on the medium. -/
theorem shown_save {μ : Type} [Medium μ] [LawfulMedium μ] {medium after : μ} {index : SlotIndex}
    {next : Slot} (hnext : next.failures ≤ maxFailures)
    (h : Persistent.save medium index.record next = .ok after) (other : SlotIndex) :
    shown after other = if other = index then .ok (some next.wipe) else shown medium other := by
  unfold shown load
  by_cases hother : other = index
  · subst hother
    rw [if_pos rfl, Persistent.load_save (decode_encode hnext) h]
    rfl
  · have hrecord : other.record ≠ index.record := fun heq =>
      hother (SlotIndex.record_inj.mp heq)
    rw [if_neg hother, Persistent.load_save_of_ne Slot h hrecord]

theorem shown_befall {μ : Type} [Medium μ] (accident : Accident μ) (medium : μ)
    (index : SlotIndex) : shown (accident.befall medium) index = shown medium index := by
  rw [shown, shown, load, load, Persistent.load_congr Slot (accident.load_befall medium _ _)]

/-- Alike slots are saved on alike media or refused by both. -/
theorem save_alike {first second : RamMedium records capacity} (hmedium : first.Alike second)
    (index : SlotIndex) {next other : Slot} (hnext : next.wipe = other.wipe)
    (hcount : next.failures ≤ maxFailures) :
    (∃ error, Persistent.save first index.record next = .error error ∧
      Persistent.save second index.record other = .error error) ∨
    (∃ one two, Persistent.save first index.record next = .ok one ∧
      Persistent.save second index.record other = .ok two ∧ one.Alike two) := by
  have hcommit (medium : RamMedium records capacity) (slot : Slot) :
      Persistent.save medium index.record slot =
        medium.commit index.record (Persistent.image slot) := if_neg (by decide)
  have hlength : (Persistent.image next).length = (Persistent.image other).length :=
    (Persistent.length_image next).trans (Persistent.length_image other).symm
  rcases RamMedium.commit_alike hmedium.budget index.record hlength with
    ⟨error, hone, htwo⟩ | ⟨one, two, hone, htwo, hbudget⟩
  · exact Or.inl ⟨error, (hcommit _ _).trans hone, (hcommit _ _).trans htwo⟩
  · have hone := (hcommit _ _).trans hone
    have htwo := (hcommit _ _).trans htwo
    have hothers : other.failures ≤ maxFailures := (wipe_eq_wipe_iff.mp hnext).1 ▸ hcount
    refine Or.inr ⟨one, two, hone, htwo, ⟨?_, hbudget, fun shownIndex => ?_⟩⟩
    · have hcounts : one.commits = first.commits + 1 := Persistent.commits_save hone
      have hcounts' : two.commits = second.commits + 1 := Persistent.commits_save htwo
      rw [hcounts, hcounts', hmedium.commits]
    · rw [shown_save hcount hone, shown_save hothers htwo, hnext, hmedium.shown]

end Slot

namespace RamMedium

variable {first second : RamMedium records capacity}

/-- A shortage of commits leaves alike media alike. -/
theorem Alike.shortage (h : first.Alike second) (count : Nat) :
    ((RamMedium.shortage count).befall first).Alike ((RamMedium.shortage count).befall second) where
  commits := h.commits
  budget := rfl
  shown index := by rw [Slot.shown_befall, Slot.shown_befall, h.shown]

theorem Alike.relief (h : first.Alike second) :
    (RamMedium.relief.befall first).Alike (RamMedium.relief.befall second) where
  commits := h.commits
  budget := rfl
  shown index := by rw [Slot.shown_befall, Slot.shown_befall, h.shown]

end RamMedium

namespace Slot

/-! ## Replacing a slot -/

/-- Two slots, with the media that keep them, that differ in keys and values only. -/
structure Kept.Alike (first second : Kept (RamMedium records capacity)) : Prop where
  slot : first.slot.wipe = second.slot.wipe
  medium : first.medium.Alike second.medium

variable {slot other : Slot} {first second : RamMedium records capacity}

/-- Alike slots are replaced by alike slots, or both replacements are refused. -/
theorem replace_alike (slot other : Slot) (hmedium : first.Alike second) (index : SlotIndex)
    {next next' : Slot} (hnext : next.wipe = next'.wipe) (hcount : next.failures ≤ maxFailures) :
    (∃ one two, slot.replace first index next = (.ok (), ⟨next, one⟩) ∧
      other.replace second index next' = (.ok (), ⟨next', two⟩) ∧ one.Alike two) ∨
    (∃ refusal, slot.replace first index next = (.error refusal, ⟨slot, first⟩) ∧
      other.replace second index next' = (.error refusal, ⟨other, second⟩)) := by
  unfold replace
  rw [Draft.commit_revise, Draft.commit_revise]
  rcases save_alike hmedium index hnext hcount with
    ⟨error, hone, htwo⟩ | ⟨one, two, hone, htwo, halike⟩
  · rw [hone, htwo]
    exact Or.inr ⟨error.toRefusal, rfl, rfl⟩
  · rw [hone, htwo]
    exact Or.inl ⟨one, two, rfl, rfl, halike⟩

/-! ## Reading a slot -/

/-- Two attempts that come to the same for everyone who does not see keys and values. -/
structure Attempt.Alike (one two : Attempt (RamMedium records capacity)) : Prop where
  result : one.result = two.result
  kept : one.kept.Alike two.kept
  response : one.response = two.response

theorem clearFailures_alike (hslot : slot.wipe = other.wipe) (hmedium : first.Alike second)
    (index : SlotIndex) :
    (slot.clearFailures first index).Alike (other.clearFailures second index) := by
  obtain ⟨hfailures, hdeadline⟩ := wipe_eq_wipe_iff.mp hslot
  unfold clearFailures
  rw [hfailures, hdeadline]
  by_cases hclean : other.failures = 0 ∧ other.deadline = .zero
  · rw [if_pos hclean, if_pos hclean]
    exact ⟨rfl, ⟨hslot, hmedium⟩, rfl⟩
  · rw [if_neg hclean, if_neg hclean]
    -- cleared slots are alike whatever they were before
    have hcleared : slot.cleared.wipe = other.cleared.wipe := rfl
    rcases replace_alike slot other hmedium index hcleared UInt16.zero_le with
      ⟨one, two, hone, htwo, halike⟩ | ⟨refusal, hone, htwo⟩
    · rw [hone, htwo]
      exact ⟨rfl, ⟨hcleared, halike⟩, rfl⟩
    · rw [hone, htwo]
      exact ⟨rfl, ⟨hslot, hmedium⟩, rfl⟩

theorem recordFailure_alike (hslot : slot.wipe = other.wipe) (hmedium : first.Alike second)
    (index : SlotIndex) (now : Instant) (schedule : BackoffSchedule) :
    (slot.recordFailure first index now schedule).Alike
      (other.recordFailure second index now schedule) := by
  have hnext := wipe_penalised hslot now schedule
  have hcount := failures_penalised_le slot now schedule
  have hfailures := (wipe_eq_wipe_iff.mp hnext).1
  unfold recordFailure
  rcases replace_alike slot other hmedium index hnext hcount with
    ⟨one, two, hone, htwo, halike⟩ | ⟨refusal, hone, htwo⟩
  · simp only [hone, htwo, hfailures]
    exact ⟨rfl, ⟨hnext, halike⟩, rfl⟩
  · simp only [hone, htwo]
    exact ⟨rfl, ⟨hslot, hmedium⟩, rfl⟩

/-- Presenting keys to alike slots comes to the same if both keys are right or both wrong; while the
slots are throttled it does so for any two keys. -/
theorem present_alike (hslot : slot.wipe = other.wipe) (hmedium : first.Alike second)
    (index : SlotIndex) {candidate candidate' : SlotKey} {now : Instant}
    (hkey : slot.deadline ≤ now → (slot.key = candidate ↔ other.key = candidate'))
    (schedule : BackoffSchedule) :
    (slot.present first index candidate now schedule).Alike
      (other.present second index candidate' now schedule) := by
  obtain ⟨-, hdeadline⟩ := wipe_eq_wipe_iff.mp hslot
  have hremaining : slot.remaining now = other.remaining now := by
    rw [remaining, remaining, hdeadline]
  unfold present
  simp only [hremaining]
  by_cases hzero : (other.remaining now).isZero = true
  · rw [if_pos hzero, if_pos hzero]
    have hopen : slot.deadline ≤ now := hdeadline ▸ Instant.isZero_remaining.mp hzero
    by_cases hmatch : slot.key = candidate
    · rw [if_pos hmatch, if_pos ((hkey hopen).mp hmatch)]
      exact clearFailures_alike hslot hmedium index
    · rw [if_neg hmatch, if_neg fun h => hmatch ((hkey hopen).mpr h)]
      exact recordFailure_alike hslot hmedium index now schedule
  · rw [if_neg hzero, if_neg hzero]
    exact ⟨rfl, ⟨hslot, hmedium⟩, rfl⟩

/-- Reading alike slots comes to the same likewise, and what the caller gets is the same too, unless
it is the value. -/
theorem read_alike (hslot : slot.wipe = other.wipe) (hmedium : first.Alike second)
    (index : SlotIndex) {candidate candidate' : SlotKey} {now : Instant}
    (hkey : slot.deadline ≤ now → (slot.key = candidate ↔ other.key = candidate'))
    (schedule : BackoffSchedule) :
    let one := slot.read first index candidate now schedule
    let two := other.read second index candidate' now schedule
    one.toAttempt.Alike two.toAttempt ∧ (one.result.isOk = false → one.out = two.out) := by
  have halike := present_alike hslot hmedium index hkey schedule
  refine ⟨halike, fun hrefused => ?_⟩
  -- without a grant the caller gets the response
  replace hrefused : (slot.present first index candidate now schedule).result.isOk = false :=
    hrefused
  have hrefused' := halike.result ▸ hrefused
  simp only [read, Block.select, hrefused, hrefused', halike.response]
  rfl

end Slot

end SecureElement
