/-
  SecureElement.Proofs.Slot.Unrecorded

  Reads on a medium that takes no commits.  The slot and the medium stay as they are, and a slot
  that carries throttling answers every key alike, so an attempt that cannot be recorded does not
  tell whether its key was right.  A slot without throttling is different by design: a right key
  leaves nothing to record there, so its value is released without a commit.
-/
import SecureElement.Proofs.Slot.Access

namespace SecureElement

namespace Slot

variable {μ : Type} [Medium μ] {slot : Slot} {medium : μ} {index : SlotIndex} {now : Instant}

/-- There is no throttling to clear. -/
def IsClean (slot : Slot) : Prop :=
  slot.failures = 0 ∧ slot.deadline = .zero

instance (slot : Slot) : Decidable slot.IsClean :=
  inferInstanceAs (Decidable (_ ∧ _))

/-- No image of a slot can be committed in a slot's place. -/
def IsRefused (medium : μ) (index : SlotIndex) : Prop :=
  ∀ image : Bytes, image.length = Persistent.imageSize Slot →
    ∃ error, Medium.commit medium index.record image = .error error

/-- Whatever image of a slot is committed in a slot's place, the medium answers alike. -/
def IsAnsweredAlike (medium : μ) (index : SlotIndex) : Prop :=
  ∀ image other : Bytes, image.length = Persistent.imageSize Slot →
    other.length = Persistent.imageSize Slot →
      Medium.commit medium index.record image = Medium.commit medium index.record other

/-- A medium that refuses every image of a slot saves no slot. -/
theorem save_of_isRefused (hrefused : IsRefused medium index) (next : Slot) :
    ∃ error, Persistent.save medium index.record next = .error error := by
  rw [Persistent.save, if_neg (by decide)]
  exact hrefused _ (Persistent.length_image next)

theorem save_of_isAnsweredAlike (halike : IsAnsweredAlike medium index) (next other : Slot) :
    Persistent.save medium index.record next = Persistent.save medium index.record other := by
  rw [Persistent.save, Persistent.save, if_neg (by decide), if_neg (by decide)]
  exact halike _ _ (Persistent.length_image next) (Persistent.length_image other)

/-- On a clean slot the right key releases the value, whatever the medium does. -/
theorem read_of_isClean (hclean : slot.IsClean) (schedule : BackoffSchedule) :
    slot.read medium index slot.key now schedule = .released .clean ⟨slot, medium⟩ slot.value := by
  have hopen : slot.deadline ≤ now := by
    rw [hclean.2]
    exact UInt64.zero_le
  have hzero : (slot.remaining now).isZero = true := Instant.isZero_remaining.mpr hopen
  have hclear : slot.clearFailures medium index = ⟨.ok .clean, ⟨slot, medium⟩, .zero 16⟩ :=
    if_pos hclean
  simp only [read, present, if_pos hzero, if_true, hclear]
  rfl

/-- What is to be recorded of a slot that a key was presented to: no throttling after the right key,
one more failure after a wrong one. -/
def presented (slot : Slot) (candidate : SlotKey) (now : Instant) (schedule : BackoffSchedule) :
    Slot :=
  if slot.key = candidate then slot.cleared else slot.penalised now schedule

/-- On a medium that takes no commits, a read of an open slot ends in the error with which the medium
refused what was to be recorded.  Only the right key of a clean slot leaves nothing to record. -/
theorem read_of_isRefused (hopen : slot.deadline ≤ now) (hrefused : IsRefused medium index)
    (schedule : BackoffSchedule) {candidate : SlotKey}
    (hrecords : ¬ (slot.IsClean ∧ slot.key = candidate)) :
    ∃ error : MediumError,
      Persistent.save medium index.record (slot.presented candidate now schedule) = .error error ∧
      slot.read medium index candidate now schedule =
        .withheld error.toRefusal ⟨slot, medium⟩ (.zero 16) := by
  have hcase := read_readCase slot medium index candidate now schedule
  generalize slot.read medium index candidate now schedule = reading at hcase
  cases hcase with
  | throttled hwait => exact absurd hopen (UInt64.not_le.mpr hwait)
  | clean _ hkey hclean => exact absurd ⟨hclean, hkey⟩ hrecords
  | cleared _ _ _ _ hsave | recorded _ _ _ hsave =>
    obtain ⟨error, herror⟩ := save_of_isRefused hrefused _
    rw [herror] at hsave
    cases hsave
  | notCleared error _ hkey hsave =>
    have hnext : slot.presented candidate now schedule = slot.cleared := if_pos hkey
    exact ⟨error, hnext ▸ hsave, rfl⟩
  | notRecorded error _ hkey hsave =>
    have hnext : slot.presented candidate now schedule = slot.penalised now schedule := if_neg hkey
    exact ⟨error, hnext ▸ hsave, rfl⟩

theorem kept_read_of_isRefused (hopen : slot.deadline ≤ now) (hrefused : IsRefused medium index)
    (schedule : BackoffSchedule) (candidate : SlotKey) :
    (slot.read medium index candidate now schedule).kept = ⟨slot, medium⟩ ∧
      (slot.read medium index candidate now schedule).response = .zero 16 := by
  by_cases hright : slot.IsClean ∧ slot.key = candidate
  · obtain ⟨hclean, rfl⟩ := hright
    rw [read_of_isClean hclean]
    exact ⟨rfl, rfl⟩
  · obtain ⟨error, -, hread⟩ := read_of_isRefused hopen hrefused schedule hright
    rw [hread]
    exact ⟨rfl, rfl⟩

/-- Two reads that have something to record are answered alike. -/
theorem read_alike_of_records (hopen : slot.deadline ≤ now) (hrefused : IsRefused medium index)
    (schedule : BackoffSchedule) {first second : SlotKey}
    (hfirst : ¬ (slot.IsClean ∧ slot.key = first))
    (hsecond : ¬ (slot.IsClean ∧ slot.key = second)) :
    let one := slot.read medium index first now schedule
    let other := slot.read medium index second now schedule
    one.out = other.out ∧ one.result.isOk = other.result.isOk ∧
      (IsAnsweredAlike medium index → one.result = other.result) := by
  intro one other
  obtain ⟨error, hsave, hread⟩ := read_of_isRefused hopen hrefused schedule hfirst
  obtain ⟨error', hsave', hread'⟩ := read_of_isRefused hopen hrefused schedule hsecond
  have hone : one = _ := hread
  have hother : other = _ := hread'
  rw [hone, hother]
  refine ⟨rfl, rfl, fun halike => ?_⟩
  have herrors := save_of_isAnsweredAlike halike (slot.presented first now schedule)
    (slot.presented second now schedule)
  rw [hsave, hsave'] at herrors
  cases herrors
  rfl

/-- An attempt that cannot be recorded does not tell whether its key was right.  For every open
slot, every instant and schedule, and every medium that takes no commits: whatever key is presented,
the slot and the medium stay as they are, and the response is zero.  Two keys are answered with the
same bytes, and with the same result if the medium refuses every slot alike; unless the slot is
clean and just one of them is right.  For that one the value is then released, and the other read
ends in the error with which the medium refused the count of a wrong key. -/
theorem read_alike_of_isRefused (hopen : slot.deadline ≤ now) (hrefused : IsRefused medium index)
    (schedule : BackoffSchedule) (first second : SlotKey) :
    let one := slot.read medium index first now schedule
    let other := slot.read medium index second now schedule
    (one.kept = ⟨slot, medium⟩ ∧ other.kept = ⟨slot, medium⟩) ∧
    (one.response = .zero 16 ∧ other.response = .zero 16) ∧
    ((slot.IsClean → (slot.key = first ↔ slot.key = second)) →
      one.out = other.out ∧ one.result.isOk = other.result.isOk ∧
        (IsAnsweredAlike medium index → one.result = other.result)) ∧
    (slot.IsClean → slot.key = first → slot.key ≠ second →
      one.result = .ok .clean ∧ one.out = slot.value ∧
        (∃ error, Persistent.save medium index.record (slot.penalised now schedule) = .error error ∧
          other.result = .error error.toRefusal) ∧ other.out = .zero 16) := by
  intro one other
  obtain ⟨hkept, hresponse⟩ := kept_read_of_isRefused hopen hrefused schedule first
  obtain ⟨hkept', hresponse'⟩ := kept_read_of_isRefused hopen hrefused schedule second
  refine ⟨⟨hkept, hkept'⟩, ⟨hresponse, hresponse'⟩, fun hsame => ?_, fun hclean hfirst hne => ?_⟩
  · by_cases hright : slot.IsClean ∧ slot.key = first
    · -- both keys are the slot's
      obtain ⟨hclean, hfirst⟩ := hright
      obtain rfl : first = second := hfirst.symm.trans ((hsame hclean).mp hfirst)
      exact ⟨rfl, rfl, fun _ => rfl⟩
    · have hwrong : ¬ (slot.IsClean ∧ slot.key = second) := fun ⟨hclean, hsecond⟩ =>
        hright ⟨hclean, (hsame hclean).mpr hsecond⟩
      exact read_alike_of_records hopen hrefused schedule hright hwrong
  · obtain ⟨error, hsave, hread⟩ :=
      read_of_isRefused hopen hrefused schedule fun hright => hne hright.2
    have hcounted : slot.presented second now schedule = slot.penalised now schedule := if_neg hne
    rw [hcounted] at hsave
    subst hfirst
    have hone : one = _ := read_of_isClean hclean schedule
    have hother : other = _ := hread
    rw [hone, hother]
    exact ⟨rfl, rfl, ⟨error, hsave, rfl⟩, rfl⟩

/-! ### On a medium in working memory -/

/-- A medium for slots that has run out of commits. -/
def exhausted : RamMedium 64 46 :=
  RamMedium.empty.limitCommits 0

theorem commit_exhausted (index : SlotIndex) {image : Bytes}
    (h : image.length = Persistent.imageSize Slot) :
    Medium.commit exhausted index.record image = .error .notCommitted := by
  have hknown : index.record.index < 64 := index.isLt
  have hfits : image.length ≤ 46 := Nat.le_of_eq h
  show exhausted.commit index.record image = _
  rw [RamMedium.commit, dif_pos hknown, dif_pos hfits]
  rfl

/-- A slot with one failure withholds its value from the right key and answers it like a wrong
one. -/
theorem read_alike_of_isRefused_counted :
    let slot : Slot := ⟨.fill 16 7, .fill 16 9, 1, .zero⟩
    let right := slot.read exhausted ⟨3, by decide⟩ (.fill 16 7) .zero {}
    let wrong := slot.read exhausted ⟨3, by decide⟩ (.fill 16 8) .zero {}
    slot.deadline ≤ .zero ∧ right.result = wrong.result ∧ right.out = wrong.out := by
  intro slot right wrong
  have hopen : slot.deadline ≤ .zero := by decide
  have hrefused : IsRefused exhausted ⟨3, by decide⟩ := fun image h =>
    ⟨_, commit_exhausted _ h⟩
  have halike : IsAnsweredAlike exhausted ⟨3, by decide⟩ := fun image other h h' => by
    rw [commit_exhausted _ h, commit_exhausted _ h']
  have hcounted : ¬ slot.IsClean := by decide
  obtain ⟨-, -, hsame, -⟩ :=
    read_alike_of_isRefused hopen hrefused {} (.fill 16 7) (.fill 16 8)
  obtain ⟨hout, -, hresult⟩ := hsame fun hclean => absurd hclean hcounted
  exact ⟨hopen, hresult halike, hout⟩

/-- A clean slot tells a right key from a wrong one although the medium takes no commits. -/
theorem read_tells_of_isClean :
    let slot : Slot := .holding (.fill 16 7) (.fill 16 9)
    let right := slot.read exhausted ⟨3, by decide⟩ (.fill 16 7) .zero {}
    let wrong := slot.read exhausted ⟨3, by decide⟩ (.fill 16 8) .zero {}
    (∀ index : SlotIndex, ∀ image : Bytes, ∃ error,
      Medium.commit exhausted index.record image = .error error) ∧
    slot.deadline ≤ .zero ∧ BackoffSchedule.Valid {} ∧
    right.result = .ok .clean ∧ right.out = .fill 16 9 ∧
    wrong.result = .error .recordUnwritable ∧ wrong.out = .zero 16 := by
  have hrefused (index : SlotIndex) (image : Bytes) :
      ∃ error, Medium.commit exhausted index.record image = .error error :=
    RamMedium.commit_of_exhausted rfl index.record image
  exact ⟨hrefused, by decide, by decide, rfl, rfl, rfl, rfl⟩

end Slot

end SecureElement
