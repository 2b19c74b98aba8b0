/-
  SecureElement.Medium.Ram

  A medium in working memory.  Every record has a cell of fixed size whose first bytes are the
  committed image; behind it lies what earlier images left there.  To rehearse accidents the medium
  can be told to run out of commits, as if power were lost at that point, and single bytes of a cell
  can be inverted.
-/
import SecureElement.Medium.Basic

namespace SecureElement

/-! ## Cells -/

/-- The memory of one record. -/
structure RamCell (capacity : Nat) where
  memory : Block capacity := .zero capacity
  /-- The size of the committed image, if there is one. -/
  extent : Option (Fin (capacity + 1)) := none
deriving DecidableEq

namespace RamCell

variable {capacity : Nat}

instance : Inhabited (RamCell capacity) :=
  ⟨{}⟩

/-- The committed image, if there is one. -/
def image? (cell : RamCell capacity) : Option Bytes :=
  cell.extent.map fun extent => cell.memory.bytes.take extent

def put (cell : RamCell capacity) (image : Bytes) (h : image.length ≤ capacity) :
    RamCell capacity where
  memory := cell.memory.overwrite 0 image (by rw [Nat.zero_add]; exact h)
  extent := some ⟨image.length, Nat.lt_succ_of_le h⟩

/-- The cell with the byte at `offset` inverted. -/
def damage (cell : RamCell capacity) (offset : Nat) : RamCell capacity :=
  { cell with memory := cell.memory.invertByte offset }

end RamCell

/-! ## The medium -/

/-- A medium of `records` records of up to `capacity` bytes in working memory. -/
structure RamMedium (records capacity : Nat) where
  cells : Vector (RamCell capacity) records := Vector.replicate records {}
  commits : Nat := 0
  /-- How many more commits take effect; without a budget, all do. -/
  budget : Option Nat := none

namespace RamMedium

variable {records capacity : Nat}

/-- The medium in which nothing was committed. -/
def empty : RamMedium records capacity :=
  {}

instance : Inhabited (RamMedium records capacity) :=
  ⟨empty⟩

/-! ### Loading and committing -/

def load (medium : RamMedium records capacity) (id : RecordId) (room : Nat) :
    Except MediumError (Option Bytes) :=
  if h : id.index < records then
    match medium.cells[id.index].image? with
    | none => .ok none
    | some image => if room < image.length then .error .tooLarge else .ok (some image)
  else
    .error .unknownRecord

/-- The medium in which a record has a new image.  A commit that is out of range takes nothing from
the budget. -/
def commit (medium : RamMedium records capacity) (id : RecordId) (image : Bytes) :
    Except MediumError (RamMedium records capacity) :=
  if known : id.index < records then
    if fits : image.length ≤ capacity then
      if medium.budget = some 0 then
        .error .notCommitted
      else
        .ok
          { cells := medium.cells.set id.index (medium.cells[id.index].put image fits)
            commits := medium.commits + 1
            budget := medium.budget.map (· - 1) }
    else
      .error .tooLarge
  else
    .error .unknownRecord

instance : Medium (RamMedium records capacity) where
  capacity _ := capacity
  load := load
  commit := commit

/-! ### Accidents -/

/-- The medium that lets `count` more commits take effect and fails those after. -/
def limitCommits (medium : RamMedium records capacity) (count : Nat) :
    RamMedium records capacity :=
  { medium with budget := some count }

/-- The medium that no longer fails commits. -/
def liftLimit (medium : RamMedium records capacity) : RamMedium records capacity :=
  { medium with budget := none }

/-- The medium with one byte of a record's cell inverted; where there is no such byte this does
nothing. -/
def damage (medium : RamMedium records capacity) (id : RecordId) (offset : Nat) :
    RamMedium records capacity :=
  if h : id.index < records then
    { medium with cells := medium.cells.set id.index (medium.cells[id.index].damage offset) }
  else
    medium

end RamMedium

end SecureElement
