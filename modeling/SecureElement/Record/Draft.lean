/-
  SecureElement.Record.Draft

  Updates of a record.  A draft is a copy of the record's value that can be revised freely; the
  medium sees it only when the draft is committed, and then as a whole.
-/
import SecureElement.Record.Format

namespace SecureElement

/-- A staged update of one record.  A draft that is dropped has no effect on any medium. -/
structure Draft (ρ : Type) where
  id : RecordId
  staged : ρ

namespace Draft

variable {ρ μ : Type}

/-- The draft of a record that stages its current value. -/
def start (id : RecordId) (current : ρ) : Draft ρ :=
  ⟨id, current⟩

def revise (draft : Draft ρ) (value : ρ) : Draft ρ :=
  { draft with staged := value }

/-- Stores the staged value, and gives it back with the medium that holds it. -/
def commit [Persistent ρ] [Medium μ] (draft : Draft ρ) (medium : μ) :
    Except MediumError (ρ × μ) :=
  (Persistent.save medium draft.id draft.staged).map (draft.staged, ·)

end Draft

end SecureElement
