/-
  SecureElement.Slot.Basic

  A slot: a value, the key that releases it, and how wrong keys have been throttled so far.

  As a payload a slot is 42 bytes: the key (16), the value (16), the failure count (2, least
  significant byte first) and the deadline (8, least significant byte first).
-/
import SecureElement.Backoff.Schedule
import SecureElement.Record.Format

namespace SecureElement

abbrev SlotKey :=
  Block 16

abbrev SlotValue :=
  Block 16

def maxFailures : UInt16 :=
  0x7FFF

/-- A value under a key. -/
@[ext]
structure Slot where
  key : SlotKey
  value : SlotValue
  /-- The number of wrong keys presented since the last right one. -/
  failures : UInt16
  deadline : Instant
deriving DecidableEq

namespace Slot

/-- A slot that holds nothing: key and value are zero and nothing is throttled. -/
def erased : Slot :=
  ⟨.zero 16, .zero 16, 0, .zero⟩

instance : Inhabited Slot :=
  ⟨erased⟩

/-- A slot that holds `value` under `key`, with nothing throttled. -/
def holding (key : SlotKey) (value : SlotValue) : Slot :=
  ⟨key, value, 0, .zero⟩

/-- Whether the slot holds nothing at all. -/
def isErased (slot : Slot) : Bool :=
  slot.key.isZero && slot.value.isZero && slot.failures == 0 && slot.deadline == .zero

/-- The time for which attempts are refused from `now` on. -/
def remaining (slot : Slot) (now : Instant) : Duration :=
  slot.deadline.remaining now

/-- The slot with its key and its value zeroed and its throttling kept. -/
def wipe (slot : Slot) : Slot :=
  { slot with key := .zero 16, value := .zero 16 }

def cleared (slot : Slot) : Slot :=
  { slot with failures := 0, deadline := .zero }

/-- The slot after one more wrong key at `now`.  The failure count stays at its largest. -/
def penalised (slot : Slot) (now : Instant) (schedule : BackoffSchedule) : Slot :=
  let failures := if slot.failures < maxFailures then slot.failures + 1 else maxFailures
  { slot with failures, deadline := now.after (schedule.backoff failures) }

/-- What may be shown of a slot: its throttling, but neither key nor value. -/
def summary (slot : Slot) : String :=
  "Slot \x7b failure_count: " ++ Text.decimal slot.failures.toNat ++
    ", backoff_deadline: Ticks(" ++ Text.decimal slot.deadline.ms.toNat ++ "), .. \x7d"

instance : Persistent Slot where
  size := 42
  encode slot :=
    slot.key ++ slot.value ++ Block.littleEndian 2 slot.failures.toNat ++ slot.deadline.toBlock
  decode block :=
    let failures := UInt16.ofNat (block.slice 32 2).toNat
    if maxFailures < failures then
      .error .outOfDomain
    else
      .ok
        { key := block.slice 0 16
          value := block.slice 16 16
          failures
          deadline := .ofBlock (block.slice 34 8) }

end Slot

end SecureElement
