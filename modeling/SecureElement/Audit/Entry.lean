/-
  SecureElement.Audit.Entry

  One line of an audit log: how much it matters, when it was written, by which component, and what
  happened.
-/
import SecureElement.Audit.Severity
import SecureElement.Audit.Message
import SecureElement.Text.Numeral

namespace SecureElement

/-- One entry of an audit log. -/
structure AuditEntry where
  severity : Severity
  /-- The clock reading or the command count when it was written. -/
  stamp : UInt64
  component : String
  message : Message
deriving DecidableEq, Inhabited

namespace AuditEntry

/-- The entry about a text, of which its message holds as much as fits. -/
def ofText (severity : Severity) (stamp : UInt64) (component text : String) : AuditEntry :=
  { severity, stamp, component, message := .ofString text }

/-- The entry as a line of text: its stamp with at least ten digits, the letter of its severity, the
component in brackets and the message. -/
def line (entry : AuditEntry) : String :=
  "[" ++ Text.paddedDecimal 10 entry.stamp.toNat ++ "] " ++
    String.singleton entry.severity.letter ++ " [" ++ entry.component ++ "] " ++ entry.message.text

end AuditEntry

end SecureElement
