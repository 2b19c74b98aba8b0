/-
  SecureElement.Audit.Severity

  How much an audit entry matters.  A log keeps the entries that are at least as severe as the
  least severity it was set to.
-/

namespace SecureElement

/-- The severity of an audit entry, most severe first. -/
inductive Severity where
  | error
  | warn
  | info
  | debug
  | trace
deriving DecidableEq, Repr, Inhabited

namespace Severity

/-- The place in the order of severity; the most severe has rank zero. -/
def rank : Severity → Nat
  | error => 0
  | warn => 1
  | info => 2
  | debug => 3
  | trace => 4

def name : Severity → String
  | error => "ERROR"
  | warn => "WARN"
  | info => "INFO"
  | debug => "DEBUG"
  | trace => "TRACE"

/-- The letter that stands for the severity in a printed entry. -/
def letter : Severity → Char
  | error => 'E'
  | warn => 'W'
  | info => 'I'
  | debug => 'D'
  | trace => 'T'

/-- Whether a log that was set to `least` keeps entries of this severity. -/
def passes (severity least : Severity) : Bool :=
  severity.rank ≤ least.rank

/-- The least severity that a log keeps unless it is told otherwise. -/
def standard : Severity :=
  info

/-- The least severity that a log keeps during development. -/
def development : Severity :=
  debug

end Severity

end SecureElement
