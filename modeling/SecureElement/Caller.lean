/-
  SecureElement.Caller

  Who issues a command: the bootloader, before it hands the device over, or the system that runs
  afterwards.
-/

namespace SecureElement

/-- Who issues a command. -/
inductive Caller where
  /-- The boot stage that verifies and starts the system. -/
  | bootloader
  | os
deriving DecidableEq, Repr, Inhabited

namespace Caller

def isBootloader : Caller → Bool
  | bootloader => true
  | os => false

def name : Caller → String
  | bootloader => "bootloader"
  | os => "os"

end Caller

end SecureElement
