/-
  SecureElement.Vault.Basic

  The vault: 64 slots in memory, the medium that keeps them, and an audit log.  A command first
  checks the number of the slot it names and then the lengths of its arguments; one that fails a
  check changes nothing.  Instants come from the caller, who reads them off a clock that never goes
  back.
-/
import SecureElement.Settings
import SecureElement.Vault.Event

namespace SecureElement

/-- The slots, beside the medium that keeps them. -/
structure Vault (μ : Type) where
  medium : μ
  schedule : BackoffSchedule
  slots : Vector Slot slotCount
  response : SlotValue
  log : AuditLog

/-- What a command on the vault gives back. -/
structure VaultReply where
  result : Except Refusal Unit
  /-- The caller's buffer, for a command that has one. -/
  out : Bytes := []

namespace Vault

variable {μ : Type}

def slot (vault : Vault μ) (index : SlotIndex) : Slot :=
  vault.slots.get index

/-- The vault with one more entry in its log. -/
def record (vault : Vault μ) (now : Instant) (event : VaultEvent) : Vault μ :=
  { vault with log := vault.log.note now.ms "weaver" event.note }

/-- The vault with a slot and the medium replaced. -/
def keep (vault : Vault μ) (index : SlotIndex) (kept : Slot.Kept μ) : Vault μ :=
  { vault with medium := kept.medium, slots := vault.slots.set index.val kept.slot }

variable [Medium μ]

/-! ## Opening -/

/-- The slots that a medium has, with nothing for those that were never committed.  If several
cannot be loaded, the refusal is that of the lowest number. -/
def found (medium : μ) : Except Refusal (Vector (Option Slot) slotCount) :=
  Vector.ofFnM fun index : SlotIndex => Slot.load medium index

/-- The vault as a medium has it.  Slots that were never committed are erased. -/
def restore (medium : μ) (now : Instant) (schedule : BackoffSchedule)
    (least : Severity := .standard) : Except Refusal (Vault μ) := do
  schedule.validate
  let found ← found medium
  let opened : Vault μ :=
    { medium, schedule
      slots := found.map fun slot => slot.getD .erased
      response := .zero 16
      log := .create least }
  return opened.record now (.opened (found.countP Option.isSome))

/-- The vault as a medium has it, with the settings of the whole element. -/
def restoreWith (medium : μ) (now : Instant) (settings : Settings) : Except Refusal (Vault μ) := do
  settings.validate
  restore medium now settings.schedule settings.least

/-! ## Commands -/

def argument (n : Nat) (data : Bytes) : Except Refusal (Block n) :=
  match Block.ofBytes? n data with
  | some block => .ok block
  | none => .error .wrongLength

/-- Writes a value under a key into a slot, with its arguments checked. -/
def writeSlot (vault : Vault μ) (now : Instant) (index : SlotIndex) (key : SlotKey)
    (value : SlotValue) : Except Refusal Unit × Vault μ :=
  match (vault.slot index).write vault.medium index key value with
  | (.ok (), kept) => (.ok (), (vault.keep index kept).record now (.written index))
  | (.error refusal, kept) => (.error refusal, vault.keep index kept)

/-- Writes a value under a key into a slot and clears the slot's throttling. -/
def write (vault : Vault μ) (now : Instant) (slot : UInt32) (key value : Bytes) :
    Except Refusal Unit × Vault μ :=
  let checked : Except Refusal (SlotIndex × SlotKey × SlotValue) := do
    return (← SlotIndex.ofRaw slot, ← argument 16 key, ← argument 16 value)
  match checked with
  | .ok (index, key, value) => vault.writeSlot now index key value
  | .error refusal => (.error refusal, vault)

/-- Presents a key to a slot, with its arguments checked. -/
def readSlot (vault : Vault μ) (now : Instant) (index : SlotIndex) (key : SlotKey) :
    VaultReply × Vault μ :=
  let reading := (vault.slot index).read vault.medium index key now vault.schedule
  let after := { vault.keep index reading.kept with response := reading.response }
  ({ result := reading.result.map fun _ => (), out := reading.out.bytes },
    after.record now (.ofRead index reading.kept.slot.failures reading.result))

/-- Reads a slot with a key into a buffer of a value's length.  The buffer gets the value, or in
its place the time to wait; if a check fails it keeps what it held. -/
def read (vault : Vault μ) (now : Instant) (slot : UInt32) (key out : Bytes) :
    VaultReply × Vault μ :=
  let checked : Except Refusal (SlotIndex × SlotKey × SlotValue) := do
    return (← SlotIndex.ofRaw slot, ← argument 16 key, ← argument 16 out)
  match checked with
  -- the buffer is overwritten as a whole, so what it held does not matter
  | .ok (index, key, _) => vault.readSlot now index key
  | .error refusal => ({ result := .error refusal, out }, vault)

/-- Erases a slot, without an entry in the log. -/
def eraseSlot (vault : Vault μ) (index : SlotIndex) : Except Refusal Unit × Vault μ :=
  match (vault.slot index).erase vault.medium index with
  | (result, kept) => (result, vault.keep index kept)

def erase (vault : Vault μ) (now : Instant) (slot : UInt32) : Except Refusal Unit × Vault μ :=
  match SlotIndex.ofRaw slot with
  | .error refusal => (.error refusal, vault)
  | .ok index =>
    match vault.eraseSlot index with
    | (.ok (), after) => (.ok (), after.record now (.erased index))
    | (.error refusal, after) => (.error refusal, after)

/-- Erases slots one after the other, up to the first that cannot be erased. -/
def eraseEach : List SlotIndex → Vault μ → Except Refusal Unit × Vault μ
  | [], vault => (.ok (), vault)
  | index :: rest, vault =>
    match vault.eraseSlot index with
    | (.ok (), after) => eraseEach rest after
    | (.error refusal, after) => (.error refusal, after)

/-- Erases every slot, lowest number first.  If one cannot be erased, those before it are erased and
the rest are as they were; the command can then be repeated. -/
def eraseAll (vault : Vault μ) (now : Instant) : Except Refusal Unit × Vault μ :=
  match eraseEach SlotIndex.all vault with
  | (.ok (), after) => (.ok (), after.record now .allErased)
  | (.error refusal, after) => (.error refusal, after)

def failures (vault : Vault μ) (slot : UInt32) : Except Refusal UInt16 :=
  (SlotIndex.ofRaw slot).map fun index => (vault.slot index).failures

end Vault

end SecureElement
