/-
  SecureElement.Audit.Log

  A log of the newest audit entries.  An entry is kept if it is severe enough for the log when it is
  written.  A journal is a log together with the component that writes to it and the count that
  stamps its entries.
-/
import SecureElement.Audit.Entry
import SecureElement.Audit.Ring

namespace SecureElement

/-! ## Notes -/

/-- What a component has to say about a command, before it is stamped. -/
structure AuditNote where
  severity : Severity
  parts : List String
deriving DecidableEq

/-! ## The log -/

/-- The number of entries that a log has room for. -/
def AuditLog.capacity : Nat :=
  32

/-- A log of the newest entries that were severe enough for it. -/
structure AuditLog where
  /-- Entries less severe than this are not kept. -/
  least : Severity := .standard
  entries : Ring AuditEntry AuditLog.capacity := .empty
deriving Inhabited

namespace AuditLog

def create (least : Severity) : AuditLog :=
  { least }

/-- Whether entries of a severity are kept. -/
def keeps (log : AuditLog) (severity : Severity) : Bool :=
  severity.passes log.least

/-- The log with another least severity; entries kept so far stay. -/
def setLeast (log : AuditLog) (least : Severity) : AuditLog :=
  { log with least }

/-- The log with one more entry, if that is severe enough. -/
def write (log : AuditLog) (entry : AuditEntry) : AuditLog :=
  if log.keeps entry.severity then { log with entries := log.entries.push entry } else log

/-- The log with one more entry whose message is made of parts. -/
def note (log : AuditLog) (stamp : UInt64) (component : String) (note : AuditNote) : AuditLog :=
  log.write { severity := note.severity, stamp, component, message := .ofParts note.parts }

def clear (log : AuditLog) : AuditLog :=
  { log with entries := .empty }

def size (log : AuditLog) : Nat :=
  log.entries.size

def isEmpty (log : AuditLog) : Bool :=
  log.entries.isEmpty

def last? (log : AuditLog) : Option AuditEntry :=
  log.entries.last?

def toList (log : AuditLog) : List AuditEntry :=
  log.entries.toList

/-- A walk over the entries, oldest first. -/
def cursor (log : AuditLog) : Ring.Cursor AuditEntry capacity :=
  log.entries.cursor

end AuditLog

/-! ## The journal -/

/-- A component's log, stamped by the number of its commands. -/
structure Journal where
  component : String
  /-- The number of commands so far, modulo the size of a word. -/
  count : UInt64 := 0
  log : AuditLog

namespace Journal

/-- The journal of a component that has not run a command. -/
def create (component : String) (least : Severity) : Journal :=
  { component, log := .create least }

/-- The journal after one more command and the note on it.  The count goes up whether or not the
note is kept. -/
def record (journal : Journal) (note : AuditNote) : Journal :=
  let count := journal.count + 1
  { journal with count, log := journal.log.note count journal.component note }

end Journal

end SecureElement
