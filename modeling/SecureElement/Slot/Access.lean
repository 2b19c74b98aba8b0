/-
  SecureElement.Slot.Access

  Writing, erasing and reading a slot.  Every change is committed to the slot's record before it
  takes effect in memory.  A read checks the backoff first and the key second; a wrong key is
  recorded before the caller learns of it, and only a match that could be recorded releases the
  value.
-/
import SecureElement.Record.Draft
import SecureElement.Slot.Basic
import SecureElement.Slot.Index

namespace SecureElement

/-- How a read was granted. -/
inductive Grant where
  /-- The key matched and there was no failure to clear. -/
  | clean
  /-- The key matched and this many failures were cleared. -/
  | afterFailures (count : UInt16)
deriving DecidableEq, Inhabited

namespace Slot

variable {μ : Type} [Medium μ]

/-! ## Replacing a slot -/

/-- A slot and the medium that keeps it. -/
structure Kept (μ : Type) where
  slot : Slot
  medium : μ

/-- The slot that a medium has, or nothing if it was never committed. -/
def load (medium : μ) (index : SlotIndex) : Except Refusal (Option Slot) :=
  (Persistent.load Slot medium index.record).mapError MediumError.toRefusal

/-- Commits `next` in place of a slot.  If the commit fails, the slot and the medium stay as they
are. -/
def replace (slot : Slot) (medium : μ) (index : SlotIndex) (next : Slot) :
    Except Refusal Unit × Kept μ :=
  match ((Draft.start index.record slot).revise next).commit medium with
  | .ok (slot, medium) => (.ok (), ⟨slot, medium⟩)
  | .error error => (.error error.toRefusal, ⟨slot, medium⟩)

/-- Puts a value under a key; nothing is throttled afterwards. -/
def write (slot : Slot) (medium : μ) (index : SlotIndex) (key : SlotKey) (value : SlotValue) :
    Except Refusal Unit × Kept μ :=
  slot.replace medium index (holding key value)

def erase (slot : Slot) (medium : μ) (index : SlotIndex) : Except Refusal Unit × Kept μ :=
  slot.replace medium index erased

/-! ## Reading a slot -/

/-- What presenting a key comes to: how it went, the slot and the medium afterwards, and what the
caller gets in place of the value. -/
structure Attempt (μ : Type) where
  result : Except Refusal Grant
  kept : Kept μ
  response : SlotValue

/-- The right key was presented: throttling that the slot still carries is cleared.  The response
stays as it was. -/
def clearFailures (slot : Slot) (medium : μ) (index : SlotIndex)
    (scratch : SlotValue := .zero 16) : Attempt μ :=
  if slot.failures = 0 ∧ slot.deadline = .zero then
    ⟨.ok .clean, ⟨slot, medium⟩, scratch⟩
  else
    match slot.replace medium index slot.cleared with
    | (.ok (), kept) =>
      ⟨.ok (if slot.failures = 0 then .clean else .afterFailures slot.failures), kept, scratch⟩
    | (.error refusal, kept) => ⟨.error refusal, kept, scratch⟩

/-- A wrong key was presented: one more failure is recorded, and the response says for how long the
slot now refuses attempts.  If that could not be recorded, the response stays as it was. -/
def recordFailure (slot : Slot) (medium : μ) (index : SlotIndex) (now : Instant)
    (schedule : BackoffSchedule) (scratch : SlotValue := .zero 16) : Attempt μ :=
  let next := slot.penalised now schedule
  let backoff := schedule.backoff next.failures
  match slot.replace medium index next with
  | (.ok (), kept) => ⟨.error (.wrongKey backoff), kept, backoff.toResponse⟩
  | (.error refusal, kept) => ⟨.error refusal, kept, scratch⟩

/-- Presents a key at an instant.  During a backoff the key is not looked at and nothing changes. -/
def present (slot : Slot) (medium : μ) (index : SlotIndex) (candidate : SlotKey) (now : Instant)
    (schedule : BackoffSchedule) : Attempt μ :=
  let remaining := slot.remaining now
  if remaining.isZero then
    if slot.key = candidate then
      slot.clearFailures medium index
    else
      slot.recordFailure medium index now schedule
  else
    ⟨.error (.throttled remaining), ⟨slot, medium⟩, remaining.toResponse⟩

/-- A read that has come to its end. -/
structure Reading (μ : Type) extends Attempt μ where
  /-- What the caller gets: the value or the response in its place. -/
  out : SlotValue

/-- Reads a slot.  The caller gets the value if the key matched and that could be recorded, and the
response otherwise. -/
def read (slot : Slot) (medium : μ) (index : SlotIndex) (candidate : SlotKey) (now : Instant)
    (schedule : BackoffSchedule) : Reading μ :=
  let attempt := slot.present medium index candidate now schedule
  -- the value that was in the slot before is still there: presenting a key never changes it
  let granted := attempt.result.isOk
  { attempt with out := Block.select granted attempt.response attempt.kept.slot.value }

/-- Reads a slot by way of two buffers of a value's length: one for the response, and the caller's.
Both are overwritten whatever they hold, and in the same order for right and wrong keys. -/
def readInto (slot : Slot) (medium : μ) (index : SlotIndex) (candidate : SlotKey) (now : Instant)
    (schedule : BackoffSchedule) (scratch out : SlotValue) : Reading μ :=
  let remaining := slot.remaining now
  if remaining.isZero then
    let matched : Bool := slot.key = candidate
    let wiped := scratch.wipe
    let attempt :=
      if matched then
        slot.clearFailures medium index wiped
      else
        slot.recordFailure medium index now schedule wiped
    -- the caller's buffer gets the response first, and the value over it only after a match that
    -- could be recorded
    let release := matched && attempt.result.isOk
    let responded := out.copyFrom attempt.response
    { attempt with out := Block.select release responded attempt.kept.slot.value }
  else
    let response := remaining.toResponse
    { result := .error (.throttled remaining)
      kept := ⟨slot, medium⟩
      response
      out := out.copyFrom response }

end Slot

end SecureElement
