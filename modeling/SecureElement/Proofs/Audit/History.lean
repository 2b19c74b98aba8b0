/-
  SecureElement.Proofs.Audit.History

  A log as a queue.  What a log keeps is told by what was done to it: `AuditLog.accepted` lists the
  entries that were severe enough when they were written and were not cleared away later, and a log has
  the newest 32 of these.
-/
import SecureElement.Proofs.Audit.Journal

namespace SecureElement

/-! ## What is done to a log -/

/-- What can be done to a log. -/
inductive LogCommand where
  | write (entry : AuditEntry)
  | note (stamp : UInt64) (component : String) (note : AuditNote)
  | setLeast (least : Severity)
  | clear
deriving DecidableEq

namespace LogCommand

/-- The entry that a command issues. -/
def entry? : LogCommand → Option AuditEntry
  | .write entry => some entry
  | .note stamp component said =>
    some { severity := said.severity, stamp, component, message := .ofParts said.parts }
  | .setLeast _ => none
  | .clear => none

/-- The entry that a command issues, if it passes the level in force. -/
def accepted? (command : LogCommand) (least : Severity) : Option AuditEntry :=
  command.entry?.filter fun entry => entry.severity.passes least

/-- The level in force after a command. -/
def leastAfter (command : LogCommand) (least : Severity) : Severity :=
  match command with
  | .setLeast later => later
  | _ => least

end LogCommand

namespace AuditLog

def execute (log : AuditLog) : LogCommand → AuditLog
  | .write entry => log.write entry
  | .note stamp component note => log.note stamp component note
  | .setLeast least => log.setLeast least
  | .clear => log.clear

def run (log : AuditLog) (commands : List LogCommand) : AuditLog :=
  commands.foldl execute log

/-- The entries that commands leave behind, oldest first: each one that passes the level in force when
it is issued, unless the log is cleared later. -/
def accepted (least : Severity) : List LogCommand → List AuditEntry
  | [] => []
  | command :: later =>
    (if .clear ∈ later then [] else (command.accepted? least).toList) ++
      accepted (command.leastAfter least) later

/-! ## What a command does -/

/-- A log has no more entries than it has room for. -/
theorem rtake_toList (log : AuditLog) : log.toList.rtake capacity = log.toList :=
  Ring.rtake_of_length_le log.entries.length_toList_le

theorem least_execute (log : AuditLog) (command : LogCommand) :
    (log.execute command).least = command.leastAfter log.least := by
  cases command with
  | write entry => exact log.least_write entry
  | note stamp component note => exact log.least_write _
  | setLeast least => rfl
  | clear => rfl

/-- A write adds its entry if that is accepted. -/
theorem toList_issue (log : AuditLog) (entry : AuditEntry) :
    (log.write entry).toList =
      (log.toList ++ ((LogCommand.write entry).accepted? log.least).toList).rtake capacity := by
  rw [toList_write, LogCommand.accepted?, LogCommand.entry?, Option.filter_some, keeps]
  split
  next => rfl
  next =>
    rw [Option.toList_none, List.append_nil, rtake_toList]

/-- A command other than clearing the log adds the entry that it has accepted, if there is one. -/
theorem toList_execute (log : AuditLog) {command : LogCommand} (h : command ≠ .clear) :
    (log.execute command).toList =
      (log.toList ++ (command.accepted? log.least).toList).rtake capacity := by
  cases command with
  | write entry => exact log.toList_issue entry
  | note stamp component note => exact log.toList_issue _
  | setLeast least =>
    show log.toList = (log.toList ++ []).rtake capacity
    rw [List.append_nil, rtake_toList]
  | clear => exact absurd rfl h

/-- After a run, a log has the newest of the entries that it had before, unless they were cleared, and
of those that were accepted in the run. -/
theorem toList_run (log : AuditLog) (commands : List LogCommand) :
    (log.run commands).toList =
      ((if .clear ∈ commands then [] else log.toList) ++ accepted log.least commands).rtake
        capacity := by
  induction commands generalizing log with
  | nil =>
    rw [if_neg List.not_mem_nil, accepted, List.append_nil, rtake_toList]
    rfl
  | cons command later ih =>
    show ((log.execute command).run later).toList = _
    rw [ih, least_execute, accepted]
    by_cases hcleared : LogCommand.clear ∈ later
    · rw [if_pos hcleared, if_pos hcleared, if_pos (List.mem_cons_of_mem _ hcleared), List.nil_append,
        List.nil_append]
    · rw [if_neg hcleared, if_neg hcleared]
      by_cases hclear : command = .clear
      · subst hclear
        rw [if_pos List.mem_cons_self]
        rfl
      · have hnone : LogCommand.clear ∉ command :: later :=
          List.not_mem_cons_of_ne_of_not_mem (Ne.symm hclear) hcleared
        rw [if_neg hnone, toList_execute log hclear, Ring.rtake_rtake_append, List.append_assoc]

example :
    let commands : List LogCommand :=
      [.note 1 "weaver" ⟨.info, ["opened"]⟩, .clear, .note 2 "weaver" ⟨.info, ["erased"]⟩,
        .setLeast .warn, .note 3 "weaver" ⟨.info, ["erased"]⟩]
    (((create .info).run commands).toList).map AuditEntry.stamp = [2] := by
  decide

/-- A log is a queue of the newest entries that it has accepted.  Whatever level it is created with and
whatever is written, noted down, set and cleared after that: a walk gives out, oldest first, the last 32
of the entries that passed the level in force when they were issued and that were not cleared since, or
all if there are fewer, each of them once, and then ends.  Their number is the size of the log and what
remains for a new walk, and the last entry is the newest of them, if there is one. -/
theorem run_keeps_newest (least : Severity) (commands : List LogCommand) :
    let log := (create least).run commands
    let kept := (accepted least commands).rtake 32
    (∀ entries, log.cursor.Yields entries ↔ entries = kept) ∧
    kept.length = min 32 (accepted least commands).length ∧
    log.size = kept.length ∧
    log.cursor.remaining = kept.length ∧
    log.last? = (accepted least commands).getLast? ∧
    (log.last? = none ↔ log.isEmpty = true) := by
  intro log kept
  have hkept : log.toList = kept := by
    show ((create least).run commands).toList = _
    rw [toList_run, show (create least).toList = [] from rfl, ite_self, List.nil_append]
    rfl
  have hsize : log.size = kept.length := by
    rw [← hkept]
    exact log.entries.length_toList.symm
  have hnewest : log.last? = log.toList.getLast? := log.entries.last?_eq_getLast?
  have hlast : log.last? = (accepted least commands).getLast? := by
    rw [hnewest, hkept]
    exact Ring.getLast?_rtake _ (by decide)
  have hyields : log.cursor.Yields kept := by
    rw [← hkept]
    exact log.entries.yields_cursor
  refine ⟨fun entries => ?_, Ring.length_rtake _ _, hsize, hsize, hlast, ?_⟩
  · constructor
    · exact fun h => h.unique hyields
    · rintro rfl
      exact hyields
  · rw [hnewest, List.getLast?_eq_none_iff, ← List.length_eq_zero_iff, hkept, ← hsize]
    exact beq_iff_eq.symm

end AuditLog

end SecureElement
