/-
  SecureElement.Audit.Ring

  A ring of a fixed number of cells.  While there is room a new element takes a fresh cell; after
  that it takes the cell of the oldest.  `Ring.toList` lists the elements oldest first, and a
  `Ring.Cursor` walks over them in that order.
-/

namespace SecureElement

/-- A ring that keeps the newest elements, `capacity` of them at most. -/
structure Ring (α : Type) (capacity : Nat) where
  cells : Array α := #[]
  /-- The cell of the oldest element; it moves once every cell is in use. -/
  oldest : Nat := 0
  /-- No more cells are in use than there are. -/
  size_le : cells.size ≤ capacity := by simp
  /-- The oldest element is in a cell, if there is one. -/
  oldest_lt : oldest < cells.size ∨ oldest = 0 := by simp
  /-- Elements lie in order from the first cell on until every cell is in use. -/
  oldest_eq_zero : cells.size < capacity → oldest = 0 := by simp

namespace Ring

variable {α : Type} {capacity : Nat}

def empty : Ring α capacity :=
  {}

instance : Inhabited (Ring α capacity) :=
  ⟨empty⟩

def size (ring : Ring α capacity) : Nat :=
  ring.cells.size

def isEmpty (ring : Ring α capacity) : Bool :=
  ring.size == 0

def toList (ring : Ring α capacity) : List α :=
  ring.cells.toList.drop ring.oldest ++ ring.cells.toList.take ring.oldest

def last? (ring : Ring α capacity) : Option α :=
  if ring.oldest = 0 then ring.cells.back? else ring.cells[ring.oldest - 1]?

/-- The ring with one more element; a full ring gives up its oldest for it. -/
def push (ring : Ring α capacity) (element : α) : Ring α capacity :=
  if room : ring.cells.size < capacity then
    { cells := ring.cells.push element
      oldest := ring.oldest
      size_le := by rw [Array.size_push]; exact room
      oldest_lt := Or.inr (ring.oldest_eq_zero room)
      oldest_eq_zero := fun _ => ring.oldest_eq_zero room }
  else if inside : ring.oldest < ring.cells.size then
    -- the new element takes the cell of the oldest, and the next cell holds the oldest from now on
    { cells := ring.cells.set ring.oldest element inside
      oldest := (ring.oldest + 1) % ring.cells.size
      size_le := by rw [Array.size_set]; exact ring.size_le
      oldest_lt := Or.inl (by rw [Array.size_set]; exact Nat.mod_lt _ (Nat.zero_lt_of_lt inside))
      oldest_eq_zero := fun h => absurd (by rwa [Array.size_set] at h) room }
  else
    -- full and yet without an oldest element: a ring that has no cells
    ring

/-! ## Walking over the elements -/

/-- A walk over a ring's elements, oldest first. -/
structure Cursor (α : Type) (capacity : Nat) where
  ring : Ring α capacity
  passed : Nat
  remaining : Nat

def cursor (ring : Ring α capacity) : Cursor α capacity :=
  ⟨ring, 0, ring.size⟩

namespace Cursor

/-- The next element and the rest of the walk. -/
def next? (cursor : Cursor α capacity) : Option (α × Cursor α capacity) :=
  match cursor.remaining with
  | 0 => none
  | remaining + 1 =>
    let cell := (cursor.ring.oldest + cursor.passed) % cursor.ring.size
    cursor.ring.cells[cell]?.map fun element =>
      (element, ⟨cursor.ring, cursor.passed + 1, remaining⟩)

/-- The elements that up to `steps` further steps of the walk meet. -/
def collect : (steps : Nat) → Cursor α capacity → List α
  | 0, _ => []
  | steps + 1, cursor =>
    match cursor.next? with
    | some (element, rest) => element :: collect steps rest
    | none => []

/-- The elements that the rest of the walk meets. -/
def toList (cursor : Cursor α capacity) : List α :=
  cursor.collect cursor.remaining

end Cursor

end Ring

end SecureElement
