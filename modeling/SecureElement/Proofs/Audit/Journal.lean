/-
  SecureElement.Proofs.Audit.Journal

  What a log and a journal keep.  A log has the newest of the entries that were severe enough for
  it, and a journal stamps its entries by counting: `Journal.Tells` says that a journal keeps what
  was noted down in it, and `Journal.Tells.record` that one more note is told as well, whole and
  with the next number.
-/
import SecureElement.Audit.Log
import SecureElement.Proofs.Audit.Message
import SecureElement.Proofs.Audit.Ring

namespace SecureElement

/-! ## Readings -/

/-- What an entry says to a reader of the log. -/
structure AuditReading where
  severity : Severity
  stamp : Nat
  component : String
  text : String
deriving DecidableEq

def AuditEntry.reading (entry : AuditEntry) : AuditReading :=
  ⟨entry.severity, entry.stamp.toNat, entry.component, entry.message.text⟩

namespace AuditNote

/-- The whole text of a note. -/
def text (note : AuditNote) : String :=
  String.join note.parts

/-- Whether an entry has room for the whole text of a note. -/
def Fits (note : AuditNote) : Prop :=
  note.text.utf8ByteSize ≤ Message.limit

/-- What an entry of the note says, if nothing is cut off. -/
def reading (note : AuditNote) (component : String) (stamp : Nat) : AuditReading :=
  ⟨note.severity, stamp, component, note.text⟩

end AuditNote

/-! ## Logs -/

namespace AuditLog

/-- A log has the newest entries, without those that were not severe enough. -/
theorem toList_write (log : AuditLog) (entry : AuditEntry) :
    (log.write entry).toList =
      if log.keeps entry.severity then (log.toList ++ [entry]).rtake capacity else log.toList := by
  rw [write]
  split
  · exact Ring.toList_push log.entries entry
  · rfl

theorem least_write (log : AuditLog) (entry : AuditEntry) :
    (log.write entry).least = log.least := by
  rw [write]
  split <;> rfl

end AuditLog

/-! ## Journals -/

namespace Journal

/-- The journal of a component keeps the newest of what was noted down in it, the earliest first,
and it has counted all of it. -/
structure Tells (journal : Journal) (component : String) (least : Severity)
    (noted : List AuditReading) : Prop where
  component_eq : journal.component = component
  least_eq : journal.log.least = least
  count : journal.count.toNat = noted.length
  entries : journal.log.toList.map AuditEntry.reading =
    (noted.filter fun reading => reading.severity.passes least).rtake AuditLog.capacity

theorem tells_create (component : String) (least : Severity) :
    (create component least).Tells component least [] :=
  ⟨rfl, rfl, rfl, rfl⟩

/-- The next note has the next number, as long as the count does not wrap around. -/
theorem Tells.record {journal : Journal} {component : String} {least : Severity}
    {noted : List AuditReading} (h : journal.Tells component least noted) {note : AuditNote}
    (hfits : note.Fits) (hcount : noted.length + 1 < UInt64.size) :
    (journal.record note).Tells component least
      (noted ++ [note.reading component (noted.length + 1)]) := by
  have hnext : (journal.count + 1).toNat = noted.length + 1 := by
    rw [UInt64.toNat_add, h.count]
    exact Nat.mod_eq_of_lt hcount
  have hreading : AuditEntry.reading ⟨note.severity, journal.count + 1, journal.component,
      .ofParts note.parts⟩ = note.reading component (noted.length + 1) := by
    rw [AuditEntry.reading, hnext, h.component_eq, Message.text_ofParts hfits]
    rfl
  constructor
  · exact h.component_eq
  · exact (AuditLog.least_write _ _).trans h.least_eq
  · rw [List.length_append]
    exact hnext
  · show ((journal.log.write _).toList).map AuditEntry.reading = _
    rw [AuditLog.toList_write, AuditLog.keeps, h.least_eq, List.filter_append]
    by_cases hpasses : note.severity.passes least = true
    · have hkept : [note.reading component (noted.length + 1)].filter
          (fun reading => reading.severity.passes least) =
            [note.reading component (noted.length + 1)] :=
        List.filter_cons_of_pos hpasses
      rw [if_pos hpasses, hkept, Ring.map_rtake, List.map_append, h.entries,
        Ring.rtake_rtake_append, List.map_singleton, hreading]
    · have hlost : [note.reading component (noted.length + 1)].filter
          (fun reading => reading.severity.passes least) = [] :=
        List.filter_cons_of_neg hpasses
      rw [if_neg hpasses, hlost, List.append_nil]
      exact h.entries

end Journal

end SecureElement
