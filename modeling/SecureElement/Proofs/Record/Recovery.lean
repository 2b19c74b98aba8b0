/-
  SecureElement.Proofs.Record.Recovery

  What a restart finds.  `Persistent.recovered` is the value of a record, or the initial value if
  none was ever committed.  On a lawful medium it is the value that was saved last: a save changes
  what is recovered for its own record and for no other.
-/
import SecureElement.Proofs.Medium.Lawful
import SecureElement.Record.Cell

namespace SecureElement

namespace Persistent

variable {ρ μ : Type} [Persistent ρ]

/-! ## Images -/

theorem ofLittleEndian_checksum (data : Bytes) :
    Bytes.ofLittleEndian (Bytes.littleEndian checksumSize (Crc32.checksum data).toNat) =
      (Crc32.checksum data).toNat := by
  have hlt := (Crc32.checksum data).toNat_lt
  rw [Bytes.ofLittleEndian_littleEndian]
  exact Nat.mod_eq_of_lt hlt

/-- A payload and its checksum in a row. -/
def framed (payload : Bytes) : Bytes :=
  payload ++ Bytes.littleEndian checksumSize (Crc32.checksum payload).toNat

/-- What is in a framed payload is what is in the payload. -/
theorem ofImage_framed (payload : Block (size ρ)) :
    ofImage ρ (framed payload.bytes) = decode payload := by
  have hsize := payload.length_bytes
  -- the payload and the checksum are found where the image has them
  have hlength : (framed payload.bytes).length = imageSize ρ := by
    simp [framed, imageSize, hsize]
  have htake : (framed payload.bytes).take (size ρ) = payload.bytes := by
    simp [framed, hsize]
  have hdrop : (framed payload.bytes).drop (size ρ) =
      Bytes.littleEndian checksumSize (Crc32.checksum payload.bytes).toNat := by
    simp [framed, hsize]
  rw [ofImage, dif_pos hlength]
  simp only [htake, hdrop]
  rw [if_pos (ofLittleEndian_checksum _)]

/-- An image holds the value that it was made of, if the value's payload does. -/
theorem ofImage_image {value : ρ} (hvalue : decode (encode value) = .ok value) :
    ofImage ρ (image value) = .ok value :=
  (ofImage_framed (encode value)).trans hvalue

/-! ## Recovering a value -/

variable [Medium μ]

/-- The value that a medium has for a record; `initial` if none was ever committed. -/
def recovered (initial : ρ) (medium : μ) (id : RecordId) : Except MediumError ρ :=
  (load ρ medium id).map fun value => value.getD initial

/-- A value that is recovered can be loaded; one that was never committed is the initial one. -/
theorem load_of_recovered {initial value : ρ} {medium : μ} {id : RecordId}
    (h : recovered initial medium id = .ok value) :
    ∃ found, load ρ medium id = .ok found ∧ found.getD initial = value := by
  unfold recovered at h
  cases hload : load ρ medium id with
  | error error =>
    rw [hload] at h
    cases h
  | ok found =>
    rw [hload] at h
    exact ⟨found, rfl, Except.ok.inj h⟩

theorem decode_of_ofImage {bytes : Bytes} {value : ρ} (h : ofImage ρ bytes = .ok value) :
    ∃ block, decode block = .ok value := by
  unfold ofImage at h
  split at h
  · dsimp only at h
    split at h
    · exact ⟨_, h⟩
    · cases h
  · cases h

/-- A value that is recovered was decoded, unless it is the initial one. -/
theorem decode_of_recovered {initial value : ρ} {medium : μ} {id : RecordId}
    (h : recovered initial medium id = .ok value) :
    value = initial ∨ ∃ block, decode block = .ok value := by
  unfold recovered load at h
  split at h
  · cases h
  · split at h
    · cases h
    · cases h
      exact Or.inl rfl
    · rename_i bytes _
      cases hvalue : ofImage ρ bytes with
      | error error =>
        rw [hvalue] at h
        cases h
      | ok found =>
        rw [hvalue] at h
        cases h
        exact Or.inr (decode_of_ofImage hvalue)

/-- A save that takes effect commits the image of its value. -/
theorem commit_of_save {medium after : μ} {id : RecordId} {value : ρ}
    (h : save medium id value = .ok after) :
    size ρ ≤ maxSize ∧ Medium.commit medium id (image value) = .ok after := by
  unfold save at h
  split at h
  · cases h
  · exact ⟨by omega, h⟩

/-- A save that takes effect is counted once. -/
theorem commits_save [CountedMedium μ] {medium after : μ} {id : RecordId} {value : ρ}
    (h : save medium id value = .ok after) :
    CountedMedium.commits after = CountedMedium.commits medium + 1 :=
  CountedMedium.commits_commit (commit_of_save h).2

/-- A medium whose records are smaller than an image refuses to save one. -/
theorem save_of_small {records capacity : Nat} (hsmall : capacity < imageSize ρ)
    (medium after : RamMedium records capacity) (id : RecordId) (value : ρ) :
    save medium id value ≠ .ok after := by
  intro hsave
  obtain ⟨-, hfits, -⟩ := RamMedium.commit_eq_ok (commit_of_save hsave).2
  rw [length_image] at hfits
  exact absurd hsmall (Nat.not_lt.mpr hfits)

/-- A medium whose records are large enough saves every value while it has commits left. -/
theorem save_isOk {records capacity : Nat} {medium : RamMedium records capacity} {id : RecordId}
    (hsize : size ρ ≤ maxSize) (hknown : id.index < records) (hfits : imageSize ρ ≤ capacity)
    (hbudget : medium.budget ≠ some 0) (value : ρ) :
    ∃ after, save medium id value = .ok after ∧ after.budget = medium.budget.map (· - 1) := by
  have hlength : (image value).length ≤ capacity := by
    rw [length_image]
    exact hfits
  obtain ⟨after, hcommit⟩ := RamMedium.commit_isOk hknown hlength hbudget
  exact ⟨after, (if_neg (Nat.not_lt.mpr hsize)).trans hcommit, RamMedium.budget_commit hcommit⟩

theorem load_congr (ρ : Type) [Persistent ρ] {medium other : μ} {id : RecordId}
    (h : Medium.load medium id maxImageSize = Medium.load other id maxImageSize) :
    load ρ medium id = load ρ other id := by
  rw [load, load, h]

theorem recovered_congr {medium other : μ} {id : RecordId} (initial : ρ)
    (h : Medium.load medium id maxImageSize = Medium.load other id maxImageSize) :
    recovered initial medium id = recovered initial other id := by
  rw [recovered, recovered, load_congr ρ h]

theorem recovered_befall (accident : Accident μ) (initial : ρ) (medium : μ) (id : RecordId) :
    recovered initial (accident.befall medium) id = recovered initial medium id :=
  recovered_congr initial (accident.load_befall medium id maxImageSize)

/-- A record without an image has the initial value, if it can be loaded at all. -/
theorem eq_of_recovered_blank {initial value : ρ} {medium : μ} {id : RecordId}
    (hblank : ∀ image, Medium.load medium id maxImageSize ≠ .ok (some image))
    (h : recovered initial medium id = .ok value) : value = initial := by
  unfold recovered load at h
  split at h
  · cases h
  · split at h
    · cases h
    · cases h
      rfl
    · rename_i image hload
      exact absurd hload (hblank image)

/-- Every value that an empty medium has is the initial one. -/
theorem eq_of_recovered_empty {records capacity : Nat} {initial value : ρ} {id : RecordId}
    (h : recovered initial (.empty : RamMedium records capacity) id = .ok value) :
    value = initial :=
  eq_of_recovered_blank (RamMedium.load_empty_ne id maxImageSize) h

variable [LawfulMedium μ]

/-- A value that was saved is loaded, if its payload holds it. -/
theorem load_save {value : ρ} {medium after : μ} {id : RecordId}
    (hvalue : decode (encode value) = .ok value) (h : save medium id value = .ok after) :
    load ρ after id = .ok (some value) := by
  obtain ⟨hsize, hcommit⟩ := commit_of_save h
  -- what could be saved is no larger than what a load makes room for
  have hroom : (image value).length ≤ maxImageSize := by
    rw [length_image, imageSize, maxImageSize]
    omega
  have hload := LawfulMedium.load_commit hcommit hroom
  rw [load, if_neg (by omega), hload]
  simp only [ofImage_image hvalue]
  rfl

theorem recovered_save {initial value : ρ} {medium after : μ} {id : RecordId}
    (hvalue : decode (encode value) = .ok value) (h : save medium id value = .ok after) :
    recovered initial after id = .ok value := by
  rw [recovered, load_save hvalue h]
  rfl

theorem load_save_of_ne (ρ : Type) [Persistent ρ] {σ : Type} [Persistent σ] {value : σ}
    {medium after : μ} {id other : RecordId} (h : save medium id value = .ok after)
    (hne : other ≠ id) : load ρ after other = load ρ medium other :=
  load_congr ρ (LawfulMedium.load_commit_of_ne (commit_of_save h).2 hne)

/-- A save leaves what is recovered for other records as it is. -/
theorem recovered_save_of_ne {initial : ρ} {σ : Type} [Persistent σ] {value : σ}
    {medium after : μ} {id other : RecordId} (h : save medium id value = .ok after)
    (hne : other ≠ id) :
    recovered initial after other = recovered initial medium other :=
  recovered_congr initial (LawfulMedium.load_commit_of_ne (commit_of_save h).2 hne)

end Persistent

/-! ## Drafts and cells -/

variable {μ ρ : Type} [Persistent ρ] [Medium μ]

theorem Draft.commit_revise (id : RecordId) (old new : ρ) (medium : μ) :
    ((Draft.start id old).revise new).commit medium =
      (Persistent.save medium id new).map fun after => (new, after) :=
  rfl

/-- A cell after a change was committed; without a change it is the same cell. -/
inductive RecordCell.Committed (before : RecordCell μ ρ) : Option ρ → RecordCell μ ρ → Prop where
  | unchanged : Committed before none before
  | saved (value : ρ) (medium : μ)
      (hsave : Persistent.save before.medium before.id value = .ok medium) :
      Committed before (some value) ⟨medium, before.id, value⟩

/-- How a command may go that is about a cell: it is carried out with one commit or none, or it is
refused without any. -/
inductive RecordCell.Attempted {α : Type} (before : RecordCell μ ρ) :
    Except Refusal α → RecordCell μ ρ → Prop where
  | carriedOut (reply : α) (change : Option ρ) (after : RecordCell μ ρ)
      (hcommitted : before.Committed change after) : Attempted before (.ok reply) after
  | refused (refusal : Refusal) : Attempted before (.error refusal) before

namespace RecordCell

theorem Committed.unique {before first second : RecordCell μ ρ} {change : Option ρ}
    (hfirst : before.Committed change first) (hsecond : before.Committed change second) :
    first = second := by
  cases hfirst with
  | unchanged =>
    cases hsecond
    rfl
  | saved value medium hsave =>
    cases hsecond with
    | saved _ other hother =>
      rw [Except.ok.inj (hsave.symm.trans hother)]

theorem Committed.value_eq {before after : RecordCell μ ρ} {change : Option ρ}
    (h : before.Committed change after) : after.value = change.getD before.value := by
  cases h <;> rfl

theorem Committed.id_eq {before after : RecordCell μ ρ} {change : Option ρ}
    (h : before.Committed change after) : after.id = before.id := by
  cases h <;> rfl

/-- A command that is refused changes neither the value nor the medium. -/
theorem Attempted.eq_of_error {α : Type} {before after : RecordCell μ ρ} {refusal : Refusal}
    (h : before.Attempted (.error refusal : Except Refusal α) after) : after = before := by
  cases h
  rfl

/-- Every command commits some change, or none. -/
theorem Attempted.exists_committed {α : Type} {before after : RecordCell μ ρ}
    {result : Except Refusal α} (h : before.Attempted result after) :
    ∃ change, before.Committed change after := by
  cases h with
  | carriedOut reply change _ hcommitted => exact ⟨change, hcommitted⟩
  | refused refusal => exact ⟨none, .unchanged⟩

/-- A value is replaced exactly if the new one is saved; else the cell stays as it is. -/
theorem replace_cases (cell : RecordCell μ ρ) (value : ρ) :
    (∃ medium, Persistent.save cell.medium cell.id value = .ok medium ∧
      cell.replace value = (.ok (), ⟨medium, cell.id, value⟩)) ∨
    (∃ error, Persistent.save cell.medium cell.id value = .error error ∧
      cell.replace value = (.error error.toRefusal, cell)) := by
  unfold replace
  rw [Draft.commit_revise]
  cases hsave : Persistent.save cell.medium cell.id value with
  | ok medium => exact Or.inl ⟨medium, rfl, rfl⟩
  | error error => exact Or.inr ⟨error, rfl, rfl⟩

/-! ### Cells in step with their medium -/

/-- The value in memory is the one that the medium has. -/
def Synced (initial : ρ) (cell : RecordCell μ ρ) : Prop :=
  Persistent.recovered initial cell.medium cell.id = .ok cell.value

theorem of_restore {medium : μ} {id : RecordId} {initial : ρ} {cell : RecordCell μ ρ}
    (h : restore medium id initial = .ok cell) :
    cell.medium = medium ∧ cell.id = id ∧ cell.Synced initial := by
  unfold restore at h
  cases hload : Persistent.load ρ medium id with
  | error error =>
    rw [hload] at h
    cases h
  | ok value =>
    rw [hload] at h
    cases h
    refine ⟨rfl, rfl, ?_⟩
    show Persistent.recovered initial medium id = _
    rw [Persistent.recovered, hload]
    rfl

/-- What is opened with a restored cell has that cell in step with the medium. -/
theorem of_map_restore {κ : Type} {opened : RecordCell μ ρ → κ} {medium : μ} {id : RecordId}
    {initial : ρ} {component : κ} (h : (restore medium id initial).map opened = .ok component) :
    ∃ cell, component = opened cell ∧ cell.medium = medium ∧ cell.Synced initial := by
  cases hcell : restore medium id initial with
  | error refusal =>
    rw [hcell] at h
    cases h
  | ok cell =>
    rw [hcell] at h
    cases h
    obtain ⟨hmedium, -, hsynced⟩ := of_restore hcell
    exact ⟨cell, rfl, hmedium, hsynced⟩

/-- A medium that has a value for a record restores to a cell with that value. -/
theorem restore_of_recovered {medium : μ} {id : RecordId} {initial value : ρ}
    (h : Persistent.recovered initial medium id = .ok value) :
    restore medium id initial = .ok ⟨medium, id, value⟩ := by
  obtain ⟨found, hload, hvalue⟩ := Persistent.load_of_recovered h
  rw [restore, hload, ← hvalue]

/-- A committed change keeps a cell in step with its medium, if its value's payload holds it. -/
theorem synced_committed [LawfulMedium μ] {initial : ρ} {before after : RecordCell μ ρ}
    {change : Option ρ} (hsynced : before.Synced initial) (h : before.Committed change after)
    (hvalue : ∀ value ∈ change, Persistent.decode (Persistent.encode value) = .ok value) :
    after.Synced initial := by
  cases h with
  | unchanged => exact hsynced
  | saved value medium hsave => exact Persistent.recovered_save (hvalue value rfl) hsave

/-- A command keeps a cell in step with its medium, if every value can be read back. -/
theorem synced_attempted [LawfulMedium μ] {α : Type} {initial : ρ} {before after : RecordCell μ ρ}
    {result : Except Refusal α} (hsynced : before.Synced initial)
    (h : before.Attempted result after)
    (hvalue : ∀ value : ρ, Persistent.decode (Persistent.encode value) = .ok value) :
    after.Synced initial := by
  obtain ⟨change, hcommitted⟩ := h.exists_committed
  exact synced_committed hsynced hcommitted fun value _ => hvalue value

/-- A committed change leaves what the medium has for other records as it is. -/
theorem recovered_committed_of_ne [LawfulMedium μ] (initial : ρ) {before after : RecordCell μ ρ}
    {change : Option ρ} (h : before.Committed change after) {other : RecordId}
    (hne : other ≠ before.id) :
    Persistent.recovered initial after.medium other =
      Persistent.recovered initial before.medium other := by
  cases h with
  | unchanged => rfl
  | saved value medium hsave => exact Persistent.recovered_save_of_ne hsave hne

theorem synced_befall {initial : ρ} {cell : RecordCell μ ρ} (hsynced : cell.Synced initial)
    (accident : Accident μ) :
    ({ cell with medium := accident.befall cell.medium } : RecordCell μ ρ).Synced initial :=
  (Persistent.recovered_befall accident initial cell.medium cell.id).trans hsynced

end RecordCell

end SecureElement
