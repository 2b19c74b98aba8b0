/-
  SecureElement.Proofs.Medium.Lawful

  What the element may rely on in a medium: a committed image is the one that is loaded from then
  on, and a commit touches the image of no other record.  The working memory medium keeps this
  promise, and so do the accidents it can be told to rehearse: they fail commits, but they leave
  every image where it is.  All that a load depends on there is `RamMedium.image?`.
-/
import SecureElement.Medium.Ram

namespace SecureElement

/-! ## Lawful media -/

/-- A medium that keeps what was committed to it. -/
class LawfulMedium (μ : Type) [Medium μ] : Prop where
  /-- A committed image is loaded back, if there is room for it. -/
  load_commit : ∀ {medium after : μ} {id : RecordId} {image : Bytes} {room : Nat},
    Medium.commit medium id image = .ok after → image.length ≤ room →
      Medium.load after id room = .ok (some image)
  /-- A commit leaves the other records as they are. -/
  load_commit_of_ne : ∀ {medium after : μ} {id other : RecordId} {image : Bytes} {room : Nat},
    Medium.commit medium id image = .ok after → other ≠ id →
      Medium.load after other room = Medium.load medium other room

/-- A medium that counts the commits that took effect. -/
class CountedMedium (μ : Type) [Medium μ] where
  commits : μ → Nat
  /-- A commit that takes effect is counted once. -/
  commits_commit : ∀ {medium after : μ} {id : RecordId} {image : Bytes},
    Medium.commit medium id image = .ok after → commits after = commits medium + 1

/-- Something that befalls a medium and leaves every image as it is.  It may decide whether later
commits take effect. -/
structure Accident (μ : Type) [Medium μ] where
  befall : μ → μ
  load_befall : ∀ (medium : μ) (id : RecordId) (room : Nat),
    Medium.load (befall medium) id room = Medium.load medium id room

/-! ## The medium in working memory -/

namespace RamCell

variable {capacity : Nat}

/-- A cell has the image that was put there last. -/
theorem image?_put (cell : RamCell capacity) (image : Bytes) (h : image.length ≤ capacity) :
    (cell.put image h).image? = some image := by
  have htake : (cell.memory.bytes.overwrite 0 image).take image.length = image := by
    simp [Bytes.overwrite]
  show some ((cell.memory.bytes.overwrite 0 image).take image.length) = some image
  rw [htake]

/-- Damage to a cell is damage to its image, or lies behind it. -/
theorem image?_damage (cell : RamCell capacity) (offset : Nat) :
    (cell.damage offset).image? =
      cell.image?.map fun image => image.modify offset (· ^^^ 0xFF) := by
  unfold image? damage
  cases cell.extent with
  | none => rfl
  | some extent =>
    show some ((cell.memory.bytes.modify offset _).take extent) = _
    rw [List.take_modify]
    rfl

end RamCell

namespace RamMedium

variable {records capacity : Nat}

/-! ### Commits -/

/-- A commit takes effect on one cell, or it is refused: because there is no such record, because the
image is too large, or for want of a commit, in this order. -/
theorem commit_cases (medium : RamMedium records capacity) (id : RecordId) (image : Bytes) :
    (∃ (known : id.index < records) (fits : image.length ≤ capacity), medium.budget ≠ some 0 ∧
      medium.commit id image = .ok
        { cells := medium.cells.set id.index (medium.cells[id.index].put image fits)
          commits := medium.commits + 1
          budget := medium.budget.map (· - 1) }) ∨
    ((records ≤ id.index ∨ capacity < image.length ∨ medium.budget = some 0) ∧
      medium.commit id image = .error (if records ≤ id.index then .unknownRecord
        else if capacity < image.length then .tooLarge else .notCommitted)) := by
  rw [commit]
  by_cases known : id.index < records
  · rw [dif_pos known, if_neg (Nat.not_le.mpr known)]
    by_cases fits : image.length ≤ capacity
    · rw [dif_pos fits, if_neg (Nat.not_lt.mpr fits)]
      by_cases hspent : medium.budget = some 0
      · rw [if_pos hspent]
        exact Or.inr ⟨Or.inr (Or.inr hspent), rfl⟩
      · rw [if_neg hspent]
        exact Or.inl ⟨known, fits, hspent, rfl⟩
    · rw [dif_neg fits, if_pos (Nat.not_le.mp fits)]
      exact Or.inr ⟨Or.inr (Or.inl (Nat.not_le.mp fits)), rfl⟩
  · rw [dif_neg known, if_pos (Nat.not_lt.mp known)]
    exact Or.inr ⟨Or.inl (Nat.not_lt.mp known), rfl⟩

/-- A commit that takes effect was in range, and it replaced the image of one cell. -/
theorem commit_eq_ok {medium after : RamMedium records capacity} {id : RecordId} {image : Bytes}
    (h : medium.commit id image = .ok after) :
    ∃ (known : id.index < records) (fits : image.length ≤ capacity),
      medium.budget ≠ some 0 ∧ after.commits = medium.commits + 1 ∧
      after.cells = medium.cells.set id.index (medium.cells[id.index].put image fits) := by
  rcases medium.commit_cases id image with ⟨known, fits, hbudget, hcommit⟩ | ⟨-, hcommit⟩
  · rw [hcommit] at h
    cases h
    exact ⟨known, fits, hbudget, rfl, rfl⟩
  · rw [hcommit] at h
    cases h

/-- A commit in range takes effect unless the medium has run out of commits. -/
theorem commit_isOk {medium : RamMedium records capacity} {id : RecordId} {image : Bytes}
    (known : id.index < records) (fits : image.length ≤ capacity)
    (hbudget : medium.budget ≠ some 0) :
    ∃ after, medium.commit id image = .ok after := by
  rcases medium.commit_cases id image with ⟨_, _, -, hcommit⟩ | ⟨hreason, -⟩
  · exact ⟨_, hcommit⟩
  · rcases hreason with hunknown | hlarge | hspent
    · exact absurd known (Nat.not_lt.mpr hunknown)
    · exact absurd fits (Nat.not_le.mpr hlarge)
    · exact absurd hspent hbudget

/-- A commit that takes effect is taken from the budget, if there is one. -/
theorem budget_commit {medium after : RamMedium records capacity} {id : RecordId} {image : Bytes}
    (h : medium.commit id image = .ok after) : after.budget = medium.budget.map (· - 1) := by
  rcases medium.commit_cases id image with ⟨_, _, -, hcommit⟩ | ⟨-, hcommit⟩
  · rw [hcommit] at h
    cases h
    rfl
  · rw [hcommit] at h
    cases h

/-- A medium that has run out of commits refuses every one. -/
theorem commit_of_exhausted {medium : RamMedium records capacity} (hbudget : medium.budget = some 0)
    (id : RecordId) (image : Bytes) : ∃ error, medium.commit id image = .error error := by
  rcases medium.commit_cases id image with ⟨-, -, hleft, -⟩ | ⟨-, hcommit⟩
  · exact absurd hbudget hleft
  · exact ⟨_, hcommit⟩

/-- Whether a commit takes effect depends on the budget, the record and the size of the image. -/
theorem commit_alike {first second : RamMedium records capacity}
    (hbudget : first.budget = second.budget) (id : RecordId) {image other : Bytes}
    (hlength : image.length = other.length) :
    (∃ error, first.commit id image = .error error ∧ second.commit id other = .error error) ∨
    (∃ one two, first.commit id image = .ok one ∧ second.commit id other = .ok two ∧
      one.budget = two.budget) := by
  rcases first.commit_cases id image with ⟨known, fits, hleft, hfirst⟩ | ⟨hreason, hfirst⟩
  · obtain ⟨two, hsecond⟩ := commit_isOk known (hlength ▸ fits) (hbudget ▸ hleft)
    refine Or.inr ⟨_, two, hfirst, hsecond, ?_⟩
    rw [budget_commit hfirst, budget_commit hsecond, hbudget]
  · rcases second.commit_cases id other with ⟨known, fits, hleft, -⟩ | ⟨-, hsecond⟩
    · -- the second medium would have refused for the same reason
      rw [hlength, hbudget] at hreason
      rcases hreason with hunknown | hlarge | hspent
      · exact absurd known (Nat.not_lt.mpr hunknown)
      · exact absurd fits (Nat.not_le.mpr hlarge)
      · exact absurd hspent hleft
    · rw [hlength] at hfirst
      exact Or.inl ⟨_, hfirst, hsecond⟩

/-! ### Images -/

/-- The image that a record has, if one was committed. -/
def image? (medium : RamMedium records capacity) (id : RecordId) : Option Bytes :=
  if h : id.index < records then medium.cells[id.index].image? else none

/-- A load of a known record gives its image, if the room is enough for it. -/
theorem load_eq (medium : RamMedium records capacity) (id : RecordId) (room : Nat) :
    medium.load id room =
      if id.index < records then
        match medium.image? id with
        | none => .ok none
        | some image => if room < image.length then .error .tooLarge else .ok (some image)
      else
        .error .unknownRecord := by
  by_cases h : id.index < records
  · have himage : medium.image? id = medium.cells[id.index].image? := dif_pos h
    rw [if_pos h, himage]
    exact dif_pos h
  · rw [if_neg h]
    exact dif_neg h

theorem image?_empty (id : RecordId) :
    (empty : RamMedium records capacity).image? id = none := by
  rw [image?]
  by_cases h : id.index < records
  · rw [dif_pos h]
    simp [empty, RamCell.image?]
  · rw [dif_neg h]

/-- Another cell for one record is another image for that record only. -/
theorem image?_of_cells {medium after : RamMedium records capacity} {id : RecordId}
    (known : id.index < records) {cell : RamCell capacity}
    (hcells : after.cells = medium.cells.set id.index cell) (other : RecordId) :
    after.image? other = if other = id then cell.image? else medium.image? other := by
  by_cases hsame : other = id
  · subst hsame
    rw [if_pos rfl, image?, dif_pos known]
    simp only [hcells, Vector.getElem_set_self]
  · have hindex : id.index ≠ other.index := fun heq => hsame (RecordId.ext heq.symm)
    rw [if_neg hsame, image?, image?]
    by_cases hother : other.index < records
    · rw [dif_pos hother, dif_pos hother]
      simp only [hcells, Vector.getElem_set_ne _ _ hindex]
    · rw [dif_neg hother, dif_neg hother]

/-- A commit that takes effect replaces the image of its record and of no other. -/
theorem image?_commit {medium after : RamMedium records capacity} {id : RecordId} {image : Bytes}
    (h : medium.commit id image = .ok after) (other : RecordId) :
    after.image? other = if other = id then some image else medium.image? other := by
  obtain ⟨known, fits, -, -, hcells⟩ := commit_eq_ok h
  rw [image?_of_cells known hcells, RamCell.image?_put]

/-- Damage inverts a byte of its record's image, or it changes no image. -/
theorem image?_damage (medium : RamMedium records capacity) (id : RecordId) (offset : Nat)
    (other : RecordId) :
    (medium.damage id offset).image? other =
      if other = id then (medium.image? other).map fun image => image.modify offset (· ^^^ 0xFF)
      else medium.image? other := by
  by_cases known : id.index < records
  · have hcells : (medium.damage id offset).cells =
        medium.cells.set id.index (medium.cells[id.index].damage offset) := by
      rw [damage, dif_pos known]
    have himage : medium.image? id = medium.cells[id.index].image? := dif_pos known
    rw [image?_of_cells known hcells, RamCell.image?_damage]
    by_cases hsame : other = id
    · rw [if_pos hsame, if_pos hsame, hsame, himage]
    · rw [if_neg hsame, if_neg hsame]
  · have hnone : medium.image? id = none := dif_neg known
    rw [damage, dif_neg known]
    by_cases hsame : other = id
    · rw [if_pos hsame, hsame, hnone]
      rfl
    · rw [if_neg hsame]

/-- Only the records of the medium can be loaded. -/
theorem known_of_load {medium : RamMedium records capacity} {id : RecordId} {room : Nat}
    {image : Option Bytes} (h : medium.load id room = .ok image) : id.index < records := by
  rw [load_eq] at h
  split at h
  · assumption
  · cases h

/-- What is loaded is the image of the record, and the room is enough for it. -/
theorem image?_of_load {medium : RamMedium records capacity} {id : RecordId} {room : Nat}
    {image : Bytes} (h : medium.load id room = .ok (some image)) :
    medium.image? id = some image ∧ image.length ≤ room := by
  have known := known_of_load h
  rw [load_eq, if_pos known] at h
  cases himage : medium.image? id with
  | none =>
    rw [himage] at h
    cases h
  | some found =>
    rw [himage] at h
    dsimp only at h
    split at h
    · cases h
    · rename_i hroom
      cases h
      exact ⟨rfl, Nat.not_lt.mp hroom⟩

/-- An image that is loaded into some room is loaded into all that is large enough for it. -/
theorem load_of_load {medium : RamMedium records capacity} {id : RecordId} {room : Nat}
    {image : Bytes} (h : medium.load id room = .ok (some image)) :
    image.length ≤ room ∧ ∀ other, medium.load id other =
      if other < image.length then .error .tooLarge else .ok (some image) := by
  obtain ⟨himage, hroom⟩ := image?_of_load h
  refine ⟨hroom, fun other => ?_⟩
  rw [load_eq, if_pos (known_of_load h), himage]

/-- Damage to a record inverts a byte of its image, or lies behind it. -/
theorem load_damage {medium : RamMedium records capacity} {id : RecordId} {room : Nat}
    {image : Bytes} (h : medium.load id room = .ok (some image)) (offset : Nat) :
    (medium.damage id offset).load id room = .ok (some (image.modify offset (· ^^^ 0xFF))) := by
  obtain ⟨himage, hroom⟩ := image?_of_load h
  rw [load_eq, if_pos (known_of_load h), image?_damage, if_pos rfl, himage]
  dsimp only [Option.map_some]
  rw [List.length_modify, if_neg (Nat.not_lt.mpr hroom)]

instance : LawfulMedium (RamMedium records capacity) where
  load_commit := by
    intro medium after id image room h hroom
    obtain ⟨known, -⟩ := commit_eq_ok h
    show after.load id room = _
    rw [load_eq, if_pos known, image?_commit h, if_pos rfl]
    exact if_neg (Nat.not_lt.mpr hroom)
  load_commit_of_ne := by
    intro medium after id other image room h hne
    show after.load other room = medium.load other room
    rw [load_eq, load_eq, image?_commit h, if_neg hne]

instance : CountedMedium (RamMedium records capacity) where
  commits := commits
  commits_commit := by
    intro medium after id image h
    obtain ⟨-, -, -, hcommits, -⟩ := commit_eq_ok h
    exact hcommits

/-- The medium lets `count` more commits take effect. -/
def shortage (count : Nat) : Accident (RamMedium records capacity) where
  befall medium := medium.limitCommits count
  load_befall _ _ _ := rfl

def relief : Accident (RamMedium records capacity) where
  befall := liftLimit
  load_befall _ _ _ := rfl

/-- Nothing can be loaded from an empty medium. -/
theorem load_empty {id : RecordId} (known : id.index < records) (room : Nat) :
    (empty : RamMedium records capacity).load id room = .ok none := by
  rw [load_eq, if_pos known, image?_empty]

/-- An empty medium has no image, in a known record or in any other. -/
theorem load_empty_ne (id : RecordId) (room : Nat) (image : Bytes) :
    Medium.load (empty : RamMedium records capacity) id room ≠ .ok (some image) := by
  intro h
  have known : id.index < records := known_of_load h
  have hnone : Medium.load (empty : RamMedium records capacity) id room = .ok none :=
    load_empty known room
  rw [hnone] at h
  cases h

end RamMedium

end SecureElement
