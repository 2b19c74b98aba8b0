/-
  SecureElement.Proofs.Vault.Erasure

  Erasing all slots while commits may run out.  Each slot costs one commit, so the erasure stops
  exactly where the budget ends, in memory and on the medium alike.  `Vault.Erasure` is what a pass
  over some slots leaves; passes add up (`Vault.Erased.trans`), so that an erasure which stopped is
  finished by the next one, however often it stopped before.
-/
import Mathlib.Order.Fin.Basic
import SecureElement.Proofs.Vault.Access

namespace SecureElement

namespace Vault

variable {records capacity : Nat}

/-! ## What a pass over slots leaves -/

/-- The slots of `done` are erased, in memory and on the medium.  The other slots and every other
record are as before. -/
structure Erased (before after : Vault (RamMedium records capacity)) (done : List SlotIndex) :
    Prop where
  slot : ∀ index, after.slot index = if index ∈ done then .erased else before.slot index
  image : ∀ id, after.medium.image? id =
    if id ∈ done.map SlotIndex.record then some (Persistent.image Slot.erased)
    else before.medium.image? id

/-- The slots of `done` were erased by one commit each, and nothing else was done. -/
structure Erasure (before after : Vault (RamMedium records capacity)) (done : List SlotIndex) :
    Prop extends Erased before after done where
  commits : after.medium.commits = before.medium.commits + done.length
  budget : after.medium.budget = before.medium.budget.map (· - done.length)
  schedule : after.schedule = before.schedule
  response : after.response = before.response
  log : after.log = before.log

/-- What two lists decide one after the other, they decide together. -/
theorem ite_mem_append {α β : Type} [DecidableEq α] (element : α) (first second : List α)
    (inside outside : β) :
    (if element ∈ second then inside else if element ∈ first then inside else outside) =
      if element ∈ first ++ second then inside else outside := by
  simp only [List.mem_append]
  by_cases hsecond : element ∈ second
  · simp only [hsecond, or_true, if_true]
  · simp only [hsecond, or_false, if_false]

namespace Erased

variable {before middle after : Vault (RamMedium records capacity)}

theorem refl (vault : Vault (RamMedium records capacity)) : Erased vault vault [] :=
  ⟨fun _ => rfl, fun _ => rfl⟩

/-- Two passes one after the other have erased the slots of both. -/
theorem trans {first second : List SlotIndex} (h : Erased before middle first)
    (hnext : Erased middle after second) : Erased before after (first ++ second) where
  slot index := by
    rw [hnext.slot, h.slot, ite_mem_append]
  image id := by
    rw [hnext.image, h.image, List.map_append, ite_mem_append]

/-- An erased slot is loaded as such. -/
theorem load {done : List SlotIndex} (h : Erased before after done) (hrecords : slotCount ≤ records)
    {index : SlotIndex} (hindex : index ∈ done) :
    Slot.load after.medium index = .ok (some .erased) := by
  have hknown : index.record.index < records := Nat.lt_of_lt_of_le index.isLt hrecords
  have himage : after.medium.image? index.record = some (Persistent.image Slot.erased) := by
    rw [h.image, if_pos (List.mem_map_of_mem hindex)]
  have hroom : ¬ Persistent.maxImageSize < (Persistent.image Slot.erased).length := by
    rw [Persistent.length_image]
    decide
  have hmedium : Medium.load after.medium index.record Persistent.maxImageSize =
      .ok (some (Persistent.image Slot.erased)) := by
    show after.medium.load index.record Persistent.maxImageSize = _
    rw [RamMedium.load_eq, if_pos hknown, himage]
    exact if_neg hroom
  have hvalue : Persistent.ofImage Slot (Persistent.image Slot.erased) = .ok .erased :=
    Persistent.ofImage_image (Slot.decode_encode UInt16.zero_le)
  rw [Slot.load, Persistent.load, if_neg (by decide), hmedium]
  simp only [hvalue]
  rfl

/-- Whatever was erased before, it makes no difference after a pass over all slots. -/
theorem eq_of_all {once resumed : Vault (RamMedium records capacity)} {done : List SlotIndex}
    (honce : Erased before once SlotIndex.all)
    (hresumed : Erased before resumed (done ++ SlotIndex.all)) :
    resumed.slots = once.slots ∧ ∀ id, resumed.medium.image? id = once.medium.image? id := by
  have hall (index : SlotIndex) : index ∈ SlotIndex.all := List.mem_finRange index
  constructor
  · refine Vector.ext fun number hnumber => ?_
    let index : SlotIndex := ⟨number, hnumber⟩
    have hslot : resumed.slot index = once.slot index := by
      rw [hresumed.slot, honce.slot, if_pos (hall index),
        if_pos (List.mem_append_right done (hall index))]
    exact hslot
  · intro id
    have hids : id ∈ (done ++ SlotIndex.all).map SlotIndex.record ↔
        id ∈ SlotIndex.all.map SlotIndex.record := by
      rw [List.map_append, List.mem_append, or_iff_right_iff_imp]
      intro hid
      obtain ⟨index, -, rfl⟩ := List.mem_map.mp hid
      exact List.mem_map_of_mem (hall index)
    rw [hresumed.image, honce.image]
    simp only [hids]

end Erased

namespace Erasure

variable {before middle after : Vault (RamMedium records capacity)}

theorem refl (vault : Vault (RamMedium records capacity)) : Erasure vault vault [] where
  toErased := .refl vault
  commits := rfl
  budget := by simp
  schedule := rfl
  response := rfl
  log := rfl

/-- One slot first, and the others after it. -/
theorem cons {first : SlotIndex} {rest : List SlotIndex} (h : Erasure before middle [first])
    (hnext : Erasure middle after rest) : Erasure before after (first :: rest) where
  toErased := h.toErased.trans hnext.toErased
  commits := by
    have hfirst : middle.medium.commits = before.medium.commits + 1 := h.commits
    rw [hnext.commits, hfirst, List.length_cons]
    omega
  budget := by
    have hfirst : middle.medium.budget = before.medium.budget.map (· - 1) := h.budget
    rw [hnext.budget, hfirst, Option.map_map, List.length_cons]
    cases before.medium.budget with
    | none => rfl
    | some count =>
      refine congrArg some ?_
      show count - 1 - rest.length = count - (rest.length + 1)
      omega
  schedule := hnext.schedule.trans h.schedule
  response := hnext.response.trans h.response
  log := hnext.log.trans h.log

end Erasure

/-! ## Passes -/

/-- The medium alone decides whether a slot is erased. -/
theorem eraseSlot_eq {μ : Type} [Medium μ] (vault : Vault μ) (index : SlotIndex) :
    vault.eraseSlot index =
      match Persistent.save vault.medium index.record Slot.erased with
      | .ok medium => (.ok (), vault.keep index ⟨.erased, medium⟩)
      | .error error => (.error error.toRefusal, vault) := by
  unfold eraseSlot Slot.erase
  rcases Slot.replace_cases (vault.slot index) vault.medium index .erased with
    ⟨medium, hsave, hreplace⟩ | ⟨error, hsave, hreplace⟩
  · rw [hreplace, hsave]
  · rw [hreplace, hsave]
    simp only [keep_slot]

section

variable (hrecords : slotCount ≤ records) (hcapacity : Persistent.imageSize Slot ≤ capacity)

include hrecords hcapacity

/-- While there are commits left, a slot is erased. -/
theorem eraseSlot_of_budget {vault : Vault (RamMedium records capacity)}
    (hbudget : vault.medium.budget ≠ some 0) (index : SlotIndex) :
    ∃ after, vault.eraseSlot index = (.ok (), after) ∧ Erasure vault after [index] := by
  have hknown : index.record.index < records := Nat.lt_of_lt_of_le index.isLt hrecords
  obtain ⟨medium, hsave, hleft⟩ :=
    Persistent.save_isOk (by decide) hknown hcapacity hbudget Slot.erased
  have hcommit : vault.medium.commit index.record (Persistent.image Slot.erased) = .ok medium :=
    (Persistent.commit_of_save hsave).2
  refine ⟨vault.keep index ⟨.erased, medium⟩, by rw [eraseSlot_eq, hsave], ?_⟩
  constructor
  · constructor
    · intro other
      by_cases hother : other = index
      · rw [hother, slot_keep_self, if_pos List.mem_cons_self]
      · rw [slot_keep_of_ne _ _ hother, if_neg fun h => hother (List.mem_singleton.mp h)]
    · intro id
      rw [medium_keep, RamMedium.image?_commit hcommit]
      simp only [List.map_singleton, List.mem_singleton]
  · exact Persistent.commits_save hsave
  · exact hleft
  · rfl
  · rfl
  · rfl

/-- Without a commit left, the slot stays, and so does everything else. -/
theorem eraseSlot_exhausted {vault : Vault (RamMedium records capacity)}
    (hbudget : vault.medium.budget = some 0) (index : SlotIndex) :
    vault.eraseSlot index = (.error .recordUnwritable, vault) := by
  have hknown : index.record.index < records := Nat.lt_of_lt_of_le index.isLt hrecords
  have hfits : (Persistent.image Slot.erased).length ≤ capacity := by
    rw [Persistent.length_image]
    exact hcapacity
  have hsave : Persistent.save vault.medium index.record Slot.erased = .error .notCommitted := by
    rcases vault.medium.commit_cases index.record (Persistent.image Slot.erased) with
      ⟨-, -, hleft, -⟩ | ⟨-, hcommit⟩
    · exact absurd hbudget hleft
    · rw [if_neg (Nat.not_le.mpr hknown), if_neg (Nat.not_lt.mpr hfits)] at hcommit
      exact (if_neg (by decide)).trans hcommit
  rw [eraseSlot_eq, hsave]
  rfl

/-- A pass with a commit for each of its slots erases them all. -/
theorem eraseEach_of_budget (indices : List SlotIndex) {vault : Vault (RamMedium records capacity)}
    (hbudget : ∀ count, vault.medium.budget = some count → indices.length ≤ count) :
    ∃ after, eraseEach indices vault = (.ok (), after) ∧ Erasure vault after indices := by
  induction indices generalizing vault with
  | nil => exact ⟨vault, rfl, .refl vault⟩
  | cons first rest ih =>
    have hleft : vault.medium.budget ≠ some 0 := fun h => Nat.not_succ_le_zero _ (hbudget 0 h)
    obtain ⟨middle, herase, hfirst⟩ := eraseSlot_of_budget hrecords hcapacity hleft first
    have hrest : ∀ count, middle.medium.budget = some count → rest.length ≤ count := by
      intro count hcount
      rw [hfirst.budget] at hcount
      obtain ⟨allowed, hallowed, rfl⟩ := Option.map_eq_some_iff.mp hcount
      have hle := hbudget allowed hallowed
      simp only [List.length_cons, List.length_nil] at hle ⊢
      omega
    obtain ⟨after, heach, hafter⟩ := ih hrest
    refine ⟨after, ?_, hfirst.cons hafter⟩
    simp only [eraseEach, herase]
    exact heach

/-- A pass with fewer commits than slots erases as many of them as it has commits, and stops. -/
theorem eraseEach_exhausted (indices : List SlotIndex) {vault : Vault (RamMedium records capacity)}
    {count : Nat} (hbudget : vault.medium.budget = some count) (hlt : count < indices.length) :
    ∃ after, eraseEach indices vault = (.error .recordUnwritable, after) ∧
      Erasure vault after (indices.take count) := by
  induction indices generalizing vault count with
  | nil => exact absurd hlt (Nat.not_lt_zero count)
  | cons first rest ih =>
    cases count with
    | zero =>
      refine ⟨vault, ?_, .refl vault⟩
      simp only [eraseEach, eraseSlot_exhausted hrecords hcapacity hbudget first]
    | succ count =>
      have hleft : vault.medium.budget ≠ some 0 := fun h =>
        Nat.succ_ne_zero count (Option.some.inj (hbudget.symm.trans h))
      obtain ⟨middle, herase, hfirst⟩ := eraseSlot_of_budget hrecords hcapacity hleft first
      have hrest : middle.medium.budget = some count := by
        rw [hfirst.budget, hbudget]
        rfl
      obtain ⟨after, heach, hafter⟩ := ih hrest (Nat.lt_of_succ_lt_succ hlt)
      refine ⟨after, ?_, hfirst.cons hafter⟩
      simp only [eraseEach, herase]
      exact heach

end

/-! ## Erasing all slots -/

section

variable (hrecords : slotCount ≤ records) (hcapacity : Persistent.imageSize Slot ≤ capacity)

include hrecords hcapacity

/-- There is a commit for every slot, or the commits run out before one of them. -/
theorem eraseAll_cases (vault : Vault (RamMedium records capacity)) (now : Instant) :
    ((∀ count, vault.medium.budget = some count → slotCount ≤ count) ∧
      ∃ after, vault.eraseAll now = (.ok (), after.record now .allErased) ∧
        Erasure vault after SlotIndex.all) ∨
    ∃ count, vault.medium.budget = some count ∧ count < slotCount ∧
      ∃ after, vault.eraseAll now = (.error .recordUnwritable, after) ∧
        Erasure vault after (SlotIndex.all.take count) := by
  have hlength : SlotIndex.all.length = slotCount := List.length_finRange
  rw [← hlength]
  by_cases hshort : ∃ count, vault.medium.budget = some count ∧ count < SlotIndex.all.length
  · obtain ⟨count, hbudget, hlt⟩ := hshort
    obtain ⟨after, heach, hafter⟩ :=
      eraseEach_exhausted hrecords hcapacity SlotIndex.all hbudget hlt
    exact Or.inr ⟨count, hbudget, hlt, after, by rw [eraseAll, heach], hafter⟩
  · have henough : ∀ count, vault.medium.budget = some count → SlotIndex.all.length ≤ count :=
      fun count hbudget => Nat.not_lt.mp fun hlt => hshort ⟨count, hbudget, hlt⟩
    obtain ⟨after, heach, hafter⟩ :=
      eraseEach_of_budget hrecords hcapacity SlotIndex.all henough
    exact Or.inl ⟨henough, after, by rw [eraseAll, heach], hafter⟩

end

/-! ## Erasing again -/

/-- The vault on a medium that takes this many commits from now on; without a number, it takes all. -/
def rationed (vault : Vault (RamMedium records capacity)) :
    Option Nat → Vault (RamMedium records capacity)
  | some count => { vault with medium := vault.medium.limitCommits count }
  | none => { vault with medium := vault.medium.liftLimit }

/-- The vault after all slots were to be erased several times, each time with a ration of its own. -/
def afterErasures : List (Option Nat × Instant) → Vault (RamMedium records capacity) →
    Vault (RamMedium records capacity)
  | [], vault => vault
  | (ration, now) :: rest, vault => afterErasures rest ((vault.rationed ration).eraseAll now).2

theorem erased_rationed (vault : Vault (RamMedium records capacity)) (ration : Option Nat) :
    Erased vault (vault.rationed ration) [] := by
  cases ration <;> exact ⟨fun _ => rfl, fun _ => rfl⟩

section

variable (hrecords : slotCount ≤ records) (hcapacity : Persistent.imageSize Slot ≤ capacity)

include hrecords hcapacity

/-- Wherever it stops, an erasure has erased some slots and left the others. -/
theorem erased_eraseAll (vault : Vault (RamMedium records capacity)) (now : Instant) :
    ∃ done, Erased vault (vault.eraseAll now).2 done := by
  rcases eraseAll_cases hrecords hcapacity vault now with
    ⟨-, after, herase, hafter⟩ | ⟨count, -, -, after, herase, hafter⟩
  · rw [herase]
    exact ⟨SlotIndex.all, hafter.slot, hafter.image⟩
  · rw [herase]
    exact ⟨_, hafter.toErased⟩

/-- However many erasures there were, some slots are erased and the others are left. -/
theorem erased_afterErasures (attempts : List (Option Nat × Instant))
    (vault : Vault (RamMedium records capacity)) :
    ∃ done, Erased vault (afterErasures attempts vault) done := by
  induction attempts generalizing vault with
  | nil => exact ⟨[], .refl vault⟩
  | cons attempt rest ih =>
    obtain ⟨ration, now⟩ := attempt
    obtain ⟨first, hfirst⟩ :=
      erased_eraseAll hrecords hcapacity (vault.rationed ration) now
    obtain ⟨later, hlater⟩ := ih ((vault.rationed ration).eraseAll now).2
    exact ⟨_, (vault.erased_rationed ration).trans (hfirst.trans hlater)⟩

/-- With no limit on commits, all slots are erased. -/
theorem eraseAll_unlimited (vault : Vault (RamMedium records capacity)) (now : Instant) :
    ∃ after, (vault.rationed none).eraseAll now = (.ok (), after) ∧
      Erased vault after SlotIndex.all := by
  rcases eraseAll_cases hrecords hcapacity (vault.rationed none) now with
    ⟨-, after, herase, hafter⟩ | ⟨count, hbudget, -⟩
  · exact ⟨_, herase, (vault.erased_rationed none).trans ⟨hafter.slot, hafter.image⟩⟩
  · cases hbudget

/-- Erasing all slots goes as far as the commits last, and can be finished later.  On a medium that has
room for every slot, and whatever is in memory and on the medium: if there is a commit for each slot, or
no limit, all slots and their records are erased, and that is logged.  If there are fewer, the erasure
fails, as many slots from the first on are erased by one commit each, the other slots and all other
records stay as they were, and nothing is logged.  After any erasures, whichever of them failed, one
without a limit leaves the slots and the images that it would have left without them. -/
theorem eraseAll_resumable (vault : Vault (RamMedium records capacity)) (now : Instant) :
    ((∀ count, vault.medium.budget = some count → slotCount ≤ count) →
      ∃ after, vault.eraseAll now = (.ok (), after.record now .allErased) ∧
        Erasure vault after SlotIndex.all ∧
        after.medium.commits = vault.medium.commits + slotCount ∧
        ∀ index, after.slot index = .erased ∧
          Slot.load after.medium index = .ok (some .erased)) ∧
    (∀ count, vault.medium.budget = some count → count < slotCount →
      ∃ after, vault.eraseAll now = (.error .recordUnwritable, after) ∧
        Erasure vault after (SlotIndex.all.take count) ∧
        after.medium.commits = vault.medium.commits + count ∧ after.log = vault.log ∧
        ∀ index : SlotIndex,
          if index.val < count then
            after.slot index = .erased ∧ Slot.load after.medium index = .ok (some .erased)
          else
            after.slot index = vault.slot index ∧
              after.medium.image? index.record = vault.medium.image? index.record) ∧
    ∀ (attempts : List (Option Nat × Instant)) (first last : Instant), ∃ once resumed,
      (vault.rationed none).eraseAll first = (.ok (), once) ∧
      ((afterErasures attempts vault).rationed none).eraseAll last = (.ok (), resumed) ∧
      resumed.slots = once.slots ∧ ∀ id, resumed.medium.image? id = once.medium.image? id := by
  have hlength : SlotIndex.all.length = slotCount := List.length_finRange
  refine ⟨fun henough => ?_, fun count hbudget hlt => ?_, fun attempts first last => ?_⟩
  · rcases eraseAll_cases hrecords hcapacity vault now with
      ⟨-, after, herase, hafter⟩ | ⟨count, hbudget, hlt, -⟩
    · refine ⟨after, herase, hafter, by rw [hafter.commits, hlength], fun index => ?_⟩
      have hindex : index ∈ SlotIndex.all := List.mem_finRange index
      exact ⟨by rw [hafter.slot, if_pos hindex], hafter.load hrecords hindex⟩
    · exact absurd hlt (Nat.not_lt.mpr (henough count hbudget))
  · rcases eraseAll_cases hrecords hcapacity vault now with
      ⟨henough, -⟩ | ⟨allowed, hallowed, -, after, herase, hafter⟩
    · exact absurd hlt (Nat.not_lt.mpr (henough count hbudget))
    · obtain rfl : count = allowed := Option.some.inj (hbudget.symm.trans hallowed)
      have hcommits : after.medium.commits = vault.medium.commits + count := by
        rw [hafter.commits, List.length_take, hlength, Nat.min_eq_left (Nat.le_of_lt hlt)]
      refine ⟨after, herase, hafter, hcommits, hafter.log, fun index => ?_⟩
      split
      · rename_i hbelow
        have hindex := mem_take_all.mpr hbelow
        exact ⟨by rw [hafter.slot, if_pos hindex], hafter.load hrecords hindex⟩
      · rename_i hbelow
        have hindex : index ∉ SlotIndex.all.take count := fun h => hbelow (mem_take_all.mp h)
        have hrecord : index.record ∉ (SlotIndex.all.take count).map SlotIndex.record := by
          intro h
          obtain ⟨other, hother, heq⟩ := List.mem_map.mp h
          exact hindex (SlotIndex.record_inj.mp heq ▸ hother)
        exact ⟨by rw [hafter.slot, if_neg hindex], by rw [hafter.image, if_neg hrecord]⟩
  · obtain ⟨done, hdone⟩ := erased_afterErasures hrecords hcapacity attempts vault
    obtain ⟨once, honce, hall⟩ := eraseAll_unlimited hrecords hcapacity vault first
    obtain ⟨resumed, hresumed, hrest⟩ :=
      eraseAll_unlimited hrecords hcapacity (afterErasures attempts vault) last
    exact ⟨once, resumed, honce, hresumed, hall.eq_of_all (hdone.trans hrest)⟩

end

/-- Every slot holds a value and counts a failure, and three more commits are taken. -/
def occupied : Vault (RamMedium 65 48) where
  medium := RamMedium.empty.limitCommits 3
  schedule := {}
  slots := Vector.ofFn fun index => ⟨.fill 16 (.ofNat index.val), .fill 16 7, 1, ⟨9⟩⟩
  response := .zero 16
  log := .create .standard

/-- The erasure stops before slot 3, and after two more that fail the last one finishes it. -/
theorem eraseAll_resumable_occupied :
    occupied.medium.budget = some 3 ∧
    (∃ after, occupied.eraseAll ⟨20⟩ = (.error .recordUnwritable, after) ∧
      after.medium.commits = 3 ∧ after.log = occupied.log ∧
      after.slot ⟨2, by decide⟩ = .erased ∧
      Slot.load after.medium ⟨2, by decide⟩ = .ok (some .erased) ∧
      after.slot ⟨3, by decide⟩ = ⟨.fill 16 3, .fill 16 7, 1, ⟨9⟩⟩ ∧
      after.medium.image? ⟨3⟩ = none) ∧
    ∃ once resumed, (occupied.rationed none).eraseAll ⟨30⟩ = (.ok (), once) ∧
      ((afterErasures [(some 3, ⟨20⟩), (some 0, ⟨21⟩), (some 40, ⟨22⟩)] occupied).rationed
        none).eraseAll ⟨30⟩ = (.ok (), resumed) ∧
      resumed.slots = once.slots := by
  have hbudget : occupied.medium.budget = some 3 := rfl
  obtain ⟨-, hshort, hagain⟩ :=
    eraseAll_resumable (by decide) (by decide) occupied ⟨20⟩
  obtain ⟨after, herase, -, hcommits, hlog, hslots⟩ := hshort 3 hbudget (by decide)
  have htwo := hslots ⟨2, by decide⟩
  have hthree := hslots ⟨3, by decide⟩
  rw [if_pos (by decide)] at htwo
  rw [if_neg (by decide)] at hthree
  obtain ⟨once, resumed, honce, hresumed, hsame, -⟩ :=
    hagain [(some 3, ⟨20⟩), (some 0, ⟨21⟩), (some 40, ⟨22⟩)] ⟨30⟩ ⟨30⟩
  refine ⟨hbudget, ⟨after, herase, hcommits, hlog, htwo.1, htwo.2, ?_, ?_⟩,
    once, resumed, honce, hresumed, hsame⟩
  · rw [hthree.1]
    decide
  · exact hthree.2.trans (RamMedium.image?_empty _)

end Vault

end SecureElement
