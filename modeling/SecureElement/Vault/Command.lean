/-
  SecureElement.Vault.Command

  The commands of the vault as values, so that a run of the vault is a list of them.
-/
import SecureElement.Vault.Basic

namespace SecureElement

/-- A command to the vault. -/
inductive VaultCommand where
  /-- Writes a value under a key into a slot. -/
  | write (slot : UInt32) (key value : Bytes)
  /-- Reads a slot with a key into a buffer. -/
  | read (slot : UInt32) (key out : Bytes)
  | erase (slot : UInt32)
  | eraseAll
deriving DecidableEq

namespace Vault

variable {μ : Type} [Medium μ]

/-- Carries out a command at an instant. -/
def execute (vault : Vault μ) (now : Instant) : VaultCommand → VaultReply × Vault μ
  | .write slot key value => (vault.write now slot key value).map (fun result => { result }) id
  | .read slot key out => vault.read now slot key out
  | .erase slot => (vault.erase now slot).map (fun result => { result }) id
  | .eraseAll => (vault.eraseAll now).map (fun result => { result }) id

end Vault

end SecureElement
