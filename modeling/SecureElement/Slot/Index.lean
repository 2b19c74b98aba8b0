/-
  SecureElement.Slot.Index

  The numbers of the slots.  Commands name a slot by a 32-bit number; only the numbers below 64 are
  slots, and nothing is cut off a larger number to make it fit.
-/
import SecureElement.Medium.Basic
import SecureElement.Text.Numeral

namespace SecureElement

def slotCount : Nat :=
  64

abbrev SlotIndex :=
  Fin slotCount

namespace SlotIndex

/-- The slot with this number, if there is one. -/
def ofNat? (number : Nat) : Option SlotIndex :=
  if h : number < slotCount then some ⟨number, h⟩ else none

def ofRaw (raw : UInt32) : Except Refusal SlotIndex :=
  match ofNat? raw.toNat with
  | some index => .ok index
  | none => .error .unknownSlot

def all : List SlotIndex :=
  List.finRange slotCount

def record (index : SlotIndex) : RecordId :=
  ⟨index.val⟩

def name (index : SlotIndex) : String :=
  Text.decimal index.val

/-- A command's number names a slot exactly if it is that slot's number. -/
theorem ofRaw_eq_ok_iff {raw : UInt32} {index : SlotIndex} :
    ofRaw raw = .ok index ↔ raw.toNat = index.val := by
  have bound := index.isLt
  unfold ofRaw ofNat?
  split
  · rename_i found h
    split at h
    · cases h
      constructor
      · intro eq
        cases eq
        rfl
      · intro eq
        simp [eq]
    · cases h
  · rename_i h
    split at h
    · cases h
    · constructor
      · intro eq
        cases eq
      · intro eq
        omega

/-- Different slots are kept in different records. -/
theorem record_inj {index other : SlotIndex} : record index = record other ↔ index = other := by
  simp [record, Fin.ext_iff]

end SlotIndex

end SecureElement
