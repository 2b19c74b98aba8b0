/-
  SecureElement.Record.Cell

  A record's value in working memory, beside the medium that keeps it.  A cell replaces both or
  neither, so what is in memory is what a restart would find.
-/
import SecureElement.Record.Draft

namespace SecureElement

/-- A record's value, beside the medium that keeps it. -/
structure RecordCell (μ ρ : Type) where
  medium : μ
  id : RecordId
  value : ρ

namespace RecordCell

variable {ρ μ : Type} [Persistent ρ] [Medium μ]

/-- The cell of a record as a medium has it; a record that was never committed has the value
`initial`. -/
def restore (medium : μ) (id : RecordId) (initial : ρ) : Except Refusal (RecordCell μ ρ) :=
  match Persistent.load ρ medium id with
  | .ok value => .ok ⟨medium, id, value.getD initial⟩
  | .error error => .error error.toRefusal

/-- Commits a new value.  If the commit fails, the value and the medium stay as they are. -/
def replace (cell : RecordCell μ ρ) (value : ρ) : Except Refusal Unit × RecordCell μ ρ :=
  match ((Draft.start cell.id cell.value).revise value).commit cell.medium with
  | .ok (value, medium) => (.ok (), { cell with medium, value })
  | .error error => (.error error.toRefusal, cell)

end RecordCell

end SecureElement
